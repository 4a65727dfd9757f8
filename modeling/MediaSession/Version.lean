/-!
# MediaSession.Version

The version of this library, as it is told to a remote party that asks for it.
-/

namespace MediaSession

def version : String := "0.1.0"

end MediaSession
