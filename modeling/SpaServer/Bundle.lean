import SpaServer.Text.Basic

/-!
# Bundles

The names under which a bundle lies in the file system: the directory of the working directory that
holds it, which depends on the build, and the entry document of a directory.
-/

namespace SpaServer.Bundle

/-- The directory of the usual build. -/
def directory : Text := "dist".toList

def alphaDirectory : Text := "console-alpha".toList

/-- The name of the entry document of a directory. -/
def indexFile : Text := "index.html".toList

end SpaServer.Bundle
