/-!
# The daemon

The name and the version under which the daemon answers for itself.
-/

namespace Kennel

def daemonName : String := "pupd"

def daemonVersion : String := "0.3.0"

end Kennel
