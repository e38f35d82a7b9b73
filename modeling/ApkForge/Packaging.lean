-- The commands that make an app of its parts: packing the resources, adding the code, signing and
-- aligning.
import ApkForge.Workspace

namespace ApkForge.Packaging

/-- Packs manifest, resources, assets and libraries into an archive. -/
def packCommand (aapt manifest resDir assetsDir androidJar output libsDir : Path) : Command where
  program := aapt.text
  args := ["package", "-v", "-f", "-M", manifest.text, "-S", resDir.text, "-A", assetsDir.text,
    "-I", androidJar.text, "-F", output.text, libsDir.text]

/-- Adds the containers of code to an archive. -/
def sealCommand (aapt apk dexDir : Path) (names : List String) : Command where
  program := aapt.text
  args := ["add", "-k", apk.text] ++ names.map fun name => (dexDir.join name).text
  startIn := some dexDir

/-- A keystore and the name of the key in it. -/
structure SigningKey where
  keystore : Path
  keyName : String
deriving DecidableEq, Repr, Inhabited

/-- The name of the key in a user's keystore. -/
def userAlias : String := "AndroidKey"

/-- The name of the key that robot controllers are signed with. -/
def robotAlias : String := "androiddebugkey"

/-- The key that an app is signed with. A robot controller has one among the runtime files. -/
def signingKey (robot : Bool) (keystore : Path) : Task ResourceError SigningKey :=
  if robot then do
    let keystore ← Resources.get "files/ftc.debug.keystore"
    return { keystore, keyName := robotAlias }
  else return { keystore, keyName := userAlias }

/-- Signs an archive. -/
def signCommand (jarsigner : Path) (key : SigningKey) (apk : Path) : Command where
  program := jarsigner.text
  args := ["-digestalg", "SHA1", "-sigalg", "MD5withRSA", "-keystore", key.keystore.text,
    "-storepass", "android", apk.text, key.keyName]

/-- Writes an aligned copy of an archive. -/
def alignCommand (zipalign apk aligned : Path) : Command where
  program := zipalign.text
  args := ["-f", "4", apk.text, aligned.text]

end ApkForge.Packaging
