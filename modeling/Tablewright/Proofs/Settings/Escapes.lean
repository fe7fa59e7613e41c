import Tablewright.Proofs.Settings.Precedence

/-! How loading a file fails: as a fault of the settings, but for the few faults that escape. -/

namespace Tablewright

section

variable {files : Files} {path : Path} {cause : FileFault}

end

section

variable {entries : Context} {cause : SettingsFault}

end

end Tablewright
