import Tablewright.Proofs.Template.Related
import Tablewright.Proofs.Value.Corresponding

/-! Two ways to reach values: when what is done to values is related, so are whole renderings. -/

namespace Tablewright.Template

/-- Whether an expression is a member of another one. -/
def Expr.isMember : Expr → Bool
  | .member _ _ => true
  | _ => false

mutual

/-- Whether an expression may call a method. -/
def Expr.sends : Expr → Bool
  | .null | .bool _ | .int _ | .text _ | .named _ => false
  | .member owner _ => owner.sends
  | .element owner key => owner.sends || key.sends
  | .call operation arguments => operation.isMember || operation.sends || anySends arguments
  | .filter _ subject arguments | .test _ subject arguments =>
    subject.sends || anySends arguments
  | .not operand => operand.sends
  | .and left right | .or left right => left.sends || right.sends
  | .compare first others => first.sends || comparedSend others
  | .concat operands => anySends operands
  | .choose condition whenTrue whenFalse =>
    condition.sends || whenTrue.sends || whenFalse.sends

/-- Whether one of the expressions may call a method. -/
def anySends : List Expr → Bool
  | [] => false
  | expr :: rest => expr.sends || anySends rest

/-- Whether one of the compared operands may call a method. -/
def comparedSend : List (Bool × Expr) → Bool
  | [] => false
  | (_, expr) :: rest => expr.sends || comparedSend rest

end

mutual

/-- Whether a node may call a method. -/
def Node.sends : Node → Bool
  | .text _ => false
  | .print value | .bind _ value | .insert value => value.sends
  | .branch cases otherwise => casesSend cases || bodySends otherwise
  | .each _ elements body otherwise => elements.sends || bodySends body || bodySends otherwise
  | .capture _ body => bodySends body

/-- Whether one of the nodes may call a method. -/
def bodySends : List Node → Bool
  | [] => false
  | node :: rest => node.sends || bodySends rest

/-- Whether a branch may call a method. -/
def casesSend : List (Expr × List Node) → Bool
  | [] => false
  | (condition, body) :: rest => condition.sends || bodySends body || casesSend rest

end

mutual

/-- Whether a node may insert a template. -/
def Node.inserts : Node → Bool
  | .text _ | .print _ | .bind _ _ => false
  | .branch cases otherwise => casesInsert cases || anyInserts otherwise
  | .each _ _ body otherwise => anyInserts body || anyInserts otherwise
  | .capture _ body => anyInserts body
  | .insert _ => true

/-- Whether one of the nodes may insert a template. -/
def anyInserts : List Node → Bool
  | [] => false
  | node :: rest => node.inserts || anyInserts rest

/-- Whether a branch may insert a template. -/
def casesInsert : List (Expr × List Node) → Bool
  | [] => false
  | (_, body) :: rest => anyInserts body || casesInsert rest

end

/-- The same names in the same order, for values that correspond. -/
abbrev ScopesMatch (same : α → α' → Prop) : List (String × α) → List (String × α') → Prop :=
  List.Forall₂ (SameKey same)

/-- Rendered nodes have one text and leave names for values that correspond. -/
def Rendered (same : α → α' → Prop) (rendered : String × List (String × α))
    (rendered' : String × List (String × α')) : Prop :=
  rendered.1 = rendered'.1 ∧ ScopesMatch same rendered.2 rendered'.2

section

variable {m m' : Type → Type} {α α' : Type} [Monad m] [Monad m'] [MonadLiftT (Except RunFault) m]
  [MonadLiftT (Except RunFault) m'] (medium : Medium m α) (medium' : Medium m' α')
  (same : α → α' → Prop)
  (rel : ∀ {β β' : Type}, (β → β' → Prop) → m β → m' β' → Prop)

/-- What two media do to values that correspond comes to related outcomes, and such steps make
related runs; only calls of methods are left open. -/
structure Matching : Prop where
  pure : ∀ {β β' : Type} {r : β → β' → Prop} {value : β} {value' : β'}, r value value' →
    rel r (pure value) (pure value')
  bind : ∀ {β β' γ γ' : Type} {r : β → β' → Prop} {s : γ → γ' → Prop} {first : m β} {first' : m' β'}
    {next : β → m γ} {next' : β' → m' γ'}, rel r first first' →
      (∀ value value', r value value' → rel s (next value) (next' value')) →
        rel s (first >>= next) (first' >>= next')
  lift : ∀ {β : Type} {result : Except RunFault β}, Plain result →
    rel (· = ·) (liftM result) (liftM result)
  leaf : ∀ value, same (medium.leaf value) (medium'.leaf value)
  look : ∀ {held held'}, same held held' → rel (· = ·) (medium.look held) (medium'.look held')
  lookAll : ∀ {row row'}, List.Forall₂ same row row' →
    rel (· = ·) (medium.lookAll row) (medium'.lookAll row')
  elements : ∀ {held held'}, same held held' →
    rel (List.Forall₂ same) (medium.elements held) (medium'.elements held')
  member : ∀ {held held'} (name), same held held' →
    rel same (medium.member name held) (medium'.member name held')
  element : ∀ {held held'} (key), same held held' →
    rel same (medium.element key held) (medium'.element key held')

/-- Calls of methods come to related outcomes, too. -/
def Sending : Prop :=
  ∀ {holder holder'} (name) {member member' row row'}, same holder holder' →
    same member member' → List.Forall₂ same row row' →
      rel same (medium.send holder name member row) (medium'.send holder' name member' row')

end

/-- The value of a call of anything but a member. -/
theorem Expr.evalIn_call {m : Type → Type} {α : Type} [Monad m] [MonadLiftT (Except RunFault) m]
    (medium : Medium m α) (scope : List (String × α)) {operation : Expr}
    (other : operation.isMember = false) (arguments : List Expr) :
    (Expr.call operation arguments).evalIn medium scope = do
      let value ← operation.evalIn medium scope
      let given ← evalAllIn medium scope arguments
      return medium.leaf
        (← run (Template.call (← medium.look value) (← medium.lookAll given))) := by
  -- Only a member is called on its holder; the equation is that of all other expressions.
  cases operation with
  | member => cases other
  | _ => rfl

section

variable {m m' : Type → Type} {α α' : Type} [Monad m] [Monad m'] [MonadLiftT (Except RunFault) m]
  [MonadLiftT (Except RunFault) m'] {medium : Medium m α} {medium' : Medium m' α'}
  {same : α → α' → Prop}
  {rel : ∀ {β β' : Type}, (β → β' → Prop) → m β → m' β' → Prop}
  (matching : Matching medium medium' same rel)
  {scope : List (String × α)} {scope' : List (String × α')}

include matching

/-- Related steps that go on with one and the same value make related runs. -/
theorem Matching.andThen {β γ γ' : Type} {s : γ → γ' → Prop} {first : m β} {first' : m' β}
    {next : β → m γ} {next' : β → m' γ'} (begun : rel (· = ·) first first')
    (following : ∀ value, rel s (next value) (next' value)) :
    rel s (first >>= next) (first' >>= next') :=
  matching.bind begun fun value _ same => same ▸ following value

/-- What is told of the plain value of a held one is the same in both media. -/
theorem Matching.tell {β γ γ' : Type} {s : γ → γ' → Prop} {told : Value → Except RunFault β}
    {next : β → m γ} {next' : β → m' γ'} {held : α} {held' : α'} (shown : same held held')
    (plain : ∀ value, Plain (told value))
    (following : ∀ result, rel s (next result) (next' result)) :
    rel s (medium.look held >>= fun value => liftM (told value) >>= next)
      (medium'.look held' >>= fun value => liftM (told value) >>= next') :=
  matching.andThen (matching.look shown) fun value =>
    matching.andThen (matching.lift (plain value)) following

/-- What is made of one plain result in both media corresponds. -/
theorem Matching.result {result : Except RunFault Value} (plain : Plain result) :
    rel same (liftM result >>= fun value => Pure.pure (medium.leaf value))
      (liftM result >>= fun value => Pure.pure (medium'.leaf value)) :=
  matching.andThen (matching.lift plain) fun value => matching.pure (matching.leaf value)

/-- A name stands for values that correspond. -/
theorem Matching.named (scopes : ScopesMatch same scope scope') (name : String) :
    same (medium.named scope name) (medium'.named scope' name) := by
  -- Where the name is not found, its value is missing in both.
  have found := lookup?_corresponding scopes name
  unfold Medium.named
  generalize lookup? name scope = value at found ⊢
  generalize lookup? name scope' = value' at found ⊢
  cases found with
  | none => exact matching.leaf _
  | some corresponding => exact corresponding

/-- Inside a round of a loop the names stand for values that correspond. -/
theorem Matching.roundScope (scopes : ScopesMatch same scope scope') (name : String)
    (body : List Node) (length done : Nat) {element : α} {element' : α'}
    (held : same element element') :
    ScopesMatch same (roundScopeIn medium scope name body length done element)
      (roundScopeIn medium' scope' name body length done element') := by
  -- The loop tells where it stands in both scopes or in neither.
  unfold roundScopeIn
  split
  · exact .cons ⟨rfl, held⟩ (.cons ⟨rfl, matching.leaf _⟩ scopes)
  · exact .cons ⟨rfl, held⟩ scopes

mutual

/-- An expression comes to values that correspond. -/
theorem Matching.eval (expr : Expr)
    (sent : expr.sends = true → Sending medium medium' same rel)
    (scopes : ScopesMatch same scope scope') :
    rel same (expr.evalIn medium scope) (expr.evalIn medium' scope') := by
  -- Both evaluate the same parts in the same order, and then look at what came of them.
  cases expr with
  | null | bool | int | text =>
    rw [Expr.evalIn, Expr.evalIn]
    exact matching.pure (matching.leaf _)
  | named name =>
    rw [Expr.evalIn, Expr.evalIn]
    exact matching.pure (matching.named scopes name)
  -- Members and elements are looked up in what the owner came to.
  | member owner name =>
    rw [Expr.evalIn, Expr.evalIn]
    exact matching.bind (Matching.eval owner sent scopes) fun _ _ held => matching.member name held
  | element owner key =>
    rw [Expr.evalIn, Expr.evalIn]
    refine matching.bind
      (Matching.eval owner (fun may => sent (by simp [Expr.sends, may])) scopes)
      fun _ _ held => matching.bind
        (Matching.eval key (fun may => sent (by simp [Expr.sends, may])) scopes)
        fun _ _ placed => matching.andThen (matching.look placed) fun place => ?_
    exact matching.element place held
  | call operation arguments =>
    -- A member is sent to its holder, and all else is called as it stands.
    have called := Matching.eval operation (fun may => sent (by simp [Expr.sends, may])) scopes
    have given := Matching.evalAll arguments (fun may => sent (by simp [Expr.sends, may])) scopes
    cases operation with
    | member owner name =>
      rw [Expr.evalIn, Expr.evalIn]
      have owned := Matching.eval owner
        (fun _ => sent (by simp [Expr.sends, Expr.isMember])) scopes
      exact matching.bind owned fun _ _ held => matching.bind (matching.member name held)
        fun _ _ had => matching.bind given fun _ _ row =>
          sent (by simp [Expr.sends, Expr.isMember]) name held had row
    | _ =>
      rw [Expr.evalIn_call medium _ rfl, Expr.evalIn_call medium' _ rfl]
      refine matching.bind called fun _ _ held => matching.bind given fun _ _ row =>
        matching.andThen (matching.look held) fun value => ?_
      refine matching.andThen (matching.lookAll row) fun values => ?_
      exact matching.result (plain_run _)
  -- Filters and tests look at their subject and their arguments as plain values.
  | filter name subject arguments =>
    rw [Expr.evalIn, Expr.evalIn]
    refine matching.bind
      (Matching.eval subject (fun may => sent (by simp [Expr.sends, may])) scopes)
      fun _ _ shown => matching.bind
        (Matching.evalAll arguments (fun may => sent (by simp [Expr.sends, may])) scopes)
        fun _ _ row => matching.andThen (matching.look shown) fun value => ?_
    refine matching.andThen (matching.lookAll row) fun values => ?_
    exact matching.result (plain_applyFilter name _ _)
  | test name subject arguments =>
    rw [Expr.evalIn, Expr.evalIn]
    refine matching.bind
      (Matching.eval subject (fun may => sent (by simp [Expr.sends, may])) scopes)
      fun _ _ shown => matching.bind
        (Matching.evalAll arguments (fun may => sent (by simp [Expr.sends, may])) scopes)
        fun _ _ row => matching.andThen (matching.look shown) fun value => ?_
    refine matching.andThen (matching.lookAll row) fun values => ?_
    exact matching.result (plain_applyTest name _ _)
  -- What an expression says of truth is told of the plain value.
  | not operand =>
    rw [Expr.evalIn, Expr.evalIn]
    refine matching.bind (Matching.eval operand sent scopes) fun _ _ held =>
      matching.tell held (fun _ => plain_run _) fun truth => ?_
    exact matching.pure (matching.leaf _)
  | and left right | or left right =>
    rw [Expr.evalIn, Expr.evalIn]
    refine matching.bind (Matching.eval left (fun may => sent (by simp [Expr.sends, may])) scopes)
      fun _ _ held => matching.tell held (fun _ => plain_run _) fun truth => ?_
    -- The truth of the first operand is the same in both, and so is whether the second one counts.
    have second := Matching.eval right (fun may => sent (by simp [Expr.sends, may])) scopes
    cases truth
    all_goals first | exact matching.pure held | exact second
  | compare first others =>
    rw [Expr.evalIn, Expr.evalIn]
    exact matching.bind (Matching.eval first (fun may => sent (by simp [Expr.sends, may])) scopes)
      fun _ _ held => Matching.evalCompared others
        (fun may => sent (by simp [Expr.sends, may])) scopes held
  | concat operands =>
    rw [Expr.evalIn, Expr.evalIn]
    refine matching.bind (Matching.evalAll operands sent scopes) fun _ _ row =>
      matching.andThen (matching.lookAll row) fun values => ?_
    refine matching.andThen (matching.lift (plain_run _)) fun texts => ?_
    exact matching.pure (matching.leaf _)
  | choose condition whenTrue whenFalse =>
    rw [Expr.evalIn, Expr.evalIn]
    refine matching.bind
      (Matching.eval condition (fun may => sent (by simp [Expr.sends, may])) scopes)
      fun _ _ held => matching.tell held (fun _ => plain_run _) fun truth => ?_
    have yes := Matching.eval whenTrue (fun may => sent (by simp [Expr.sends, may])) scopes
    have no := Matching.eval whenFalse (fun may => sent (by simp [Expr.sends, may])) scopes
    -- Of the two values only the one that is chosen is evaluated.
    cases truth
    · exact no
    · exact yes

/-- Expressions in a row come to values that correspond. -/
theorem Matching.evalAll (exprs : List Expr)
    (sent : anySends exprs = true → Sending medium medium' same rel)
    (scopes : ScopesMatch same scope scope') :
    rel (List.Forall₂ same) (evalAllIn medium scope exprs) (evalAllIn medium' scope' exprs) := by
  -- One expression after another, each among the same names.
  cases exprs with
  | nil =>
    rw [evalAllIn, evalAllIn]
    exact matching.pure .nil
  | cons expr rest =>
    rw [evalAllIn, evalAllIn]
    exact matching.bind (Matching.eval expr (fun may => sent (by simp [anySends, may])) scopes)
      fun _ _ held => matching.bind
        (Matching.evalAll rest (fun may => sent (by simp [anySends, may])) scopes)
        fun _ _ row => matching.pure (.cons held row)

/-- Comparisons in a row come to values that correspond. -/
theorem Matching.evalCompared (others : List (Bool × Expr))
    (sent : comparedSend others = true → Sending medium medium' same rel)
    (scopes : ScopesMatch same scope scope') {left : α} {left' : α'} (begun : same left left') :
    rel same (evalComparedIn medium scope left others)
      (evalComparedIn medium' scope' left' others) := by
  cases others with
  | nil =>
    rw [evalComparedIn, evalComparedIn]
    exact matching.pure (matching.leaf _)
  | cons other rest =>
    obtain ⟨wantsEqual, expr⟩ := other
    rw [evalComparedIn, evalComparedIn]
    refine matching.bind (Matching.eval expr (fun may => sent (by simp [comparedSend, may])) scopes)
      fun right right' held => matching.andThen (matching.look begun) fun value => ?_
    -- Both operands are looked at, and what their comparison comes to is told by plain values.
    refine matching.tell held (fun _ => plain_run _) fun equal => ?_
    -- A comparison that does not hold ends the row, and one that holds goes on to the next.
    split
    · exact Matching.evalCompared rest (fun may => sent (by simp [comparedSend, may])) scopes held
    · exact matching.pure (matching.leaf _)

end

end

section

variable {m m' : Type → Type} {α α' : Type} [Monad m] [Monad m'] [LawfulMonad m] [LawfulMonad m']
  [MonadLiftT (Except RunFault) m] [MonadLiftT (Except RunFault) m'] {medium : Medium m α}
  {medium' : Medium m' α'} {same : α → α' → Prop}
  {rel : ∀ {β β' : Type}, (β → β' → Prop) → m β → m' β' → Prop}
  (matching : Matching medium medium' same rel)

include matching

/-- Steps along values that correspond make runs that are related. -/
theorem Matching.mapM {β β' γ γ' : Type} {r : β → β' → Prop} {s : γ → γ' → Prop} {step : β → m γ}
    {step' : β' → m' γ'}
    (steps : ∀ value value', r value value' → rel s (step value) (step' value'))
    {values : List β} {values' : List β'} (row : List.Forall₂ r values values') :
    rel (List.Forall₂ s) (values.mapM step) (values'.mapM step') := by
  -- The runs go on in step, for one value of each row at a time.
  induction row with
  | nil =>
    rw [List.mapM_nil, List.mapM_nil]
    exact matching.pure .nil
  | cons head _ ih =>
    rw [List.mapM_cons, List.mapM_cons]
    exact matching.bind (steps _ _ head) fun _ _ first => matching.bind ih fun _ _ rest =>
      matching.pure (.cons first rest)

/-- Steps along values that correspond and are counted make runs that are related. -/
theorem Matching.mapM_zipIdx {γ γ' : Type} {s : γ → γ' → Prop} {step : α × Nat → m γ}
    {step' : α' × Nat → m' γ'}
    (steps : ∀ value value' index, same value value' →
      rel s (step (value, index)) (step' (value', index)))
    {values : List α} {values' : List α'} (row : List.Forall₂ same values values') (start : Nat) :
    rel (List.Forall₂ s) ((values.zipIdx start).mapM step) ((values'.zipIdx start).mapM step') := by
  -- Values that correspond stand at the same places, so they are counted alike.
  induction row generalizing start with
  | nil =>
    rw [List.zipIdx_nil, List.zipIdx_nil, List.mapM_nil, List.mapM_nil]
    exact matching.pure .nil
  | cons head _ ih =>
    rw [List.zipIdx_cons, List.zipIdx_cons, List.mapM_cons, List.mapM_cons]
    exact matching.bind (steps _ _ start head) fun _ _ first => matching.bind (ih (start + 1))
      fun _ _ rest => matching.pure (.cons first rest)

/-- What is inserted in the place of files and among names that correspond is related. -/
abbrev InsertsMatch (same : α → α' → Prop)
    (rel : ∀ {β β' : Type}, (β → β' → Prop) → m β → m' β' → Prop)
    (insert : Inserting m α) (insert' : Inserting m' α') : Prop :=
  ∀ {file file' scope scope'}, same file file' → ScopesMatch same scope scope' →
    rel (· = ·) (insert file scope) (insert' file' scope')

variable {insert : Inserting m α} {insert' : Inserting m' α'}

-- Only the first of the three steps through a list, but they rest on each other.
set_option linter.unusedSectionVars false in
mutual

/-- A node has related outcomes, provided that methods and inserts have if it may call any. -/
theorem Matching.render (node : Node)
    {scope : List (String × α)} {scope' : List (String × α')}
    (sent : node.sends = true → Sending medium medium' same rel)
    (inserted : node.inserts = true → InsertsMatch same rel insert insert')
    (scopes : ScopesMatch same scope scope') :
    rel (Rendered same) (node.renderIn medium insert scope)
      (node.renderIn medium' insert' scope') := by
  -- Both take the same steps, and can come apart at methods and inserts alone.
  cases node with
  | text s =>
    rw [Node.renderIn, Node.renderIn]
    exact matching.pure ⟨rfl, scopes⟩
  -- Of a value its text is printed, which is told of the plain value.
  | print value =>
    rw [Node.renderIn, Node.renderIn]
    refine matching.bind (matching.eval value sent scopes) fun _ _ held =>
      matching.tell held (fun _ => plain_run _) fun text => ?_
    exact matching.pure ⟨rfl, scopes⟩
  | branch cases otherwise =>
    rw [Node.renderIn, Node.renderIn]
    refine matching.bind (Matching.renderCases cases (fun may => sent (by simp [Node.sends, may]))
      (fun may => inserted (by simp [Node.inserts, may])) scopes) fun taken taken' chosen => ?_
    -- A branch that is taken is the outcome, and otherwise the last nodes are.
    cases chosen with
    | some rendered => exact matching.pure rendered
    | none =>
      exact Matching.renderNodes otherwise (fun may => sent (by simp [Node.sends, may]))
        (fun may => inserted (by simp [Node.inserts, may])) scopes
  -- There are as many rounds in both, so both have some or none.
  | each name elements body otherwise =>
    rw [Node.renderIn, Node.renderIn]
    refine matching.bind
      (matching.eval elements (fun may => sent (by simp [Node.sends, may])) scopes)
      fun _ _ held => matching.bind (matching.elements held) fun items items' row => ?_
    have both : items.isEmpty = items'.isEmpty := by
      cases row <;> rfl
    rw [both, row.length_eq]
    split
    · refine matching.bind (Matching.renderNodes otherwise
        (fun may => sent (by simp [Node.sends, may]))
        (fun may => inserted (by simp [Node.inserts, may])) scopes) ?_
      rintro ⟨text, last⟩ ⟨_, last'⟩ ⟨rfl, -⟩
      exact matching.pure ⟨rfl, scopes⟩
    · -- Of a round only its text is kept, since the names it gave end with it.
      refine matching.bind (matching.mapM_zipIdx (s := (· = ·)) (fun item item' done had => ?_)
        row 0) fun texts texts' alike => ?_
      · refine matching.bind (Matching.renderNodes body
          (fun may => sent (by simp [Node.sends, may]))
          (fun may => inserted (by simp [Node.inserts, may]))
          (matching.roundScope scopes name body _ done had)) ?_
        rintro ⟨text, last⟩ ⟨_, last'⟩ ⟨rfl, -⟩
        exact matching.pure rfl
      · rw [List.forall₂_eq_eq_eq] at alike
        subst alike
        exact matching.pure ⟨rfl, scopes⟩
  | bind name value =>
    rw [Node.renderIn, Node.renderIn]
    exact matching.bind (matching.eval value sent scopes) fun _ _ held =>
      matching.pure ⟨rfl, .cons ⟨rfl, held⟩ scopes⟩
  -- What is captured is a text, which is held as such.
  | capture name body =>
    rw [Node.renderIn, Node.renderIn]
    refine matching.bind (Matching.renderNodes body sent inserted scopes) ?_
    rintro ⟨text, last⟩ ⟨_, last'⟩ ⟨rfl, -⟩
    exact matching.pure ⟨rfl, .cons ⟨rfl, matching.leaf _⟩ scopes⟩
  | insert file =>
    rw [Node.renderIn, Node.renderIn]
    refine matching.bind (matching.eval file sent scopes) fun _ _ held =>
      matching.andThen (inserted rfl held scopes) fun text => ?_
    exact matching.pure ⟨rfl, scopes⟩

/-- Nodes in a row have related outcomes, provided that methods and inserts have. -/
theorem Matching.renderNodes (nodes : List Node)
    {scope : List (String × α)} {scope' : List (String × α')}
    (sent : bodySends nodes = true → Sending medium medium' same rel)
    (inserted : anyInserts nodes = true → InsertsMatch same rel insert insert')
    (scopes : ScopesMatch same scope scope') :
    rel (Rendered same) (renderNodesIn medium insert scope nodes)
      (renderNodesIn medium' insert' scope' nodes) := by
  -- The names that a node leaves stand for values that correspond, and are passed on.
  cases nodes with
  | nil =>
    rw [renderNodesIn, renderNodesIn]
    exact matching.pure ⟨rfl, scopes⟩
  | cons node rest =>
    rw [renderNodesIn, renderNodesIn]
    refine matching.bind (Matching.render node (fun may => sent (by simp [bodySends, may]))
      (fun may => inserted (by simp [anyInserts, may])) scopes) ?_
    -- The first node has one text in both, and the rest goes on with the names it leaves.
    rintro ⟨text, next⟩ ⟨_, next'⟩ ⟨rfl, passed⟩
    refine matching.bind (Matching.renderNodes rest (fun may => sent (by simp [bodySends, may]))
      (fun may => inserted (by simp [anyInserts, may])) passed) ?_
    rintro ⟨more, last⟩ ⟨_, last'⟩ ⟨rfl, left⟩
    exact matching.pure ⟨rfl, left⟩

/-- Branches have related outcomes, provided that methods and inserts have. -/
theorem Matching.renderCases (cases : List (Expr × List Node))
    {scope : List (String × α)} {scope' : List (String × α')}
    (sent : casesSend cases = true → Sending medium medium' same rel)
    (inserted : casesInsert cases = true → InsertsMatch same rel insert insert')
    (scopes : ScopesMatch same scope scope') :
    rel (Option.Rel (Rendered same)) (renderCasesIn medium insert scope cases)
      (renderCasesIn medium' insert' scope' cases) := by
  -- The truth of a condition is the same in both, so both take the same branch.
  cases cases with
  | nil =>
    rw [renderCasesIn, renderCasesIn]
    exact matching.pure .none
  | cons entry rest =>
    obtain ⟨condition, body⟩ := entry
    rw [renderCasesIn, renderCasesIn]
    refine matching.bind
      (matching.eval condition (fun may => sent (by simp [casesSend, may])) scopes)
      fun _ _ held => matching.tell held (fun _ => plain_run _) fun holds => ?_
    split
    · exact matching.bind (Matching.renderNodes body (fun may => sent (by simp [casesSend, may]))
        (fun may => inserted (by simp [casesInsert, may])) scopes) fun _ _ rendered =>
          matching.pure (.some rendered)
    · -- A condition that does not hold passes on to the next one.
      exact Matching.renderCases rest (fun may => sent (by simp [casesSend, may]))
        (fun may => inserted (by simp [casesInsert, may])) scopes

end

/-- Sources of two shelves make the same nodes in related ways, and no methods are called in them
unless that comes to related outcomes, too. -/
def SourcesMatch (medium : Medium m α) (medium' : Medium m' α') (same : α → α' → Prop)
    (rel : ∀ {β β' : Type}, (β → β' → Prop) → m β → m' β' → Prop) (shelf shelf' : Shelf) : Prop :=
  ∀ file, rel
    (fun nodes nodes' => nodes = nodes' ∧
      (bodySends nodes = true → Sending medium medium' same rel))
    (liftM ((shelf.nodes file).mapError RunFault.unusable))
    (liftM ((shelf'.nodes file).mapError RunFault.unusable))

/-- Shelves whose sources make the same nodes insert related texts, however deep. -/
theorem Matching.shelfInsert {shelf shelf' : Shelf}
    (sources : SourcesMatch medium medium' same rel shelf shelf') (depth : Nat) :
    InsertsMatch same rel (shelf.insertIn medium depth) (shelf'.insertIn medium' depth) := by
  -- What an inserted template inserts in turn is one level deeper.
  induction depth with
  | zero =>
    intro file file' scope scope' held scopes
    rw [Shelf.insertIn, Shelf.insertIn]
    exact matching.lift (avoids_error (by simp))
  | succ depth ih =>
    intro file file' scope scope' held scopes
    rw [Shelf.insertIn, Shelf.insertIn]
    refine matching.tell held (fun _ => plain_run _) fun name => ?_
    refine matching.bind (sources name) ?_
    rintro nodes _ ⟨rfl, sent⟩
    refine matching.bind (matching.renderNodes nodes sent (fun _ => ih) scopes) ?_
    rintro ⟨text, last⟩ ⟨_, last'⟩ ⟨rfl, -⟩
    exact matching.pure rfl

/-- Nodes give related texts among values that correspond, provided that methods do if any are
called, and sources if any are inserted. -/
theorem Matching.shelfText {shelf shelf' : Shelf} (nodes : List Node)
    {scope : List (String × α)} {scope' : List (String × α')}
    (sent : bodySends nodes = true → Sending medium medium' same rel)
    (sources : anyInserts nodes = true → SourcesMatch medium medium' same rel shelf shelf')
    (scopes : ScopesMatch same scope scope') :
    rel (· = ·) (shelf.textIn medium nodes scope) (shelf'.textIn medium' nodes scope') := by
  -- A text is rendered among its names and the helpers, unless one of the names is reserved.
  unfold Shelf.textIn
  have added : ScopesMatch same (scope ++ helpers.map (Prod.map id medium.leaf))
      (scope' ++ helpers.map (Prod.map id medium'.leaf)) :=
    List.rel_append scopes (List.forall₂_map_left_iff.mpr (List.forall₂_map_right_iff.mpr
      (List.forall₂_same.mpr fun _ _ => ⟨rfl, matching.leaf _⟩)))
  have rendered := matching.renderNodes nodes sent
    (fun may => matching.shelfInsert (sources may) insertDepth) added
  -- A name that is reserved stops both before any node is rendered.
  have reserved : (lookup? reservedName scope).isSome = (lookup? reservedName scope').isSome := by
    have found := lookup?_corresponding scopes reservedName
    generalize lookup? reservedName scope = value at found ⊢
    generalize lookup? reservedName scope' = value' at found ⊢
    cases found <;> rfl
  have shown : ∀ done done', Rendered same done done' →
      rel (· = ·) (Pure.pure done.1) (Pure.pure done'.1) := fun _ _ alike => matching.pure alike.1
  rw [reserved]
  split
  · exact matching.bind (matching.lift (avoids_error (by simp))) fun _ _ _ =>
      matching.bind rendered shown
  · -- Without a reserved name the text is that of the nodes.
    exact matching.bind rendered shown

end

end Tablewright.Template
