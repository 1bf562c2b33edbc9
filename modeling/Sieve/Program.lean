/-!
The name and the version of the program.
-/

namespace Sieve

def program : String := "specgrep"

def version : String := "1.0.0"

end Sieve
