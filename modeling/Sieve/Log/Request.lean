import Sieve.Log.Setup
import Sieve.Settings.Basic

/-!
Setups that settings ask for.
-/

namespace Sieve

/-- The setup that the settings ask for, with another level if one is given. -/
def LogSettings.request (s : LogSettings) (level : Option Int) : Log.SetupRequest where
  level := level.getD (Log.weightOf s.level)
  file := s.file
  modules := s.moduleLevels.map fun (m, l) => (m, Log.weightOf l)

end Sieve
