-- The icon of an app. Its format is told from its first bytes, and it is installed under one name
-- with the extension of that format; icons of other formats are taken away first.
import ApkForge.Project

namespace ApkForge

/-- The formats of images that an icon may have. -/
inductive ImageFormat where
  | png
  | jpeg
  | gif
  | webp
deriving DecidableEq, Repr

namespace ImageFormat

/-- All formats. -/
def all : List ImageFormat := [.png, .jpeg, .gif, .webp]

theorem mem_all (f : ImageFormat) : f ∈ all := by cases f <;> decide

/-- The extension of files in a format. -/
def extension : ImageFormat → String
  | .png => "png"
  | .jpeg => "jpg"
  | .gif => "gif"
  | .webp => "webp"

/-- The first bytes of a PNG file. -/
def pngSignature : Bytes := [0x89, 0x50, 0x4e, 0x47, 0x0d, 0x0a, 0x1a, 0x0a]

/-- The first bytes of a JPEG file. -/
def jpegSignature : Bytes := [0xff, 0xd8, 0xff]

/-- The first bytes of a file in the older GIF format. -/
def gif87Signature : Bytes := [0x47, 0x49, 0x46, 0x38, 0x37, 0x61]

/-- The first bytes of a file in the newer GIF format. -/
def gif89Signature : Bytes := [0x47, 0x49, 0x46, 0x38, 0x39, 0x61]

/-- The first bytes of a RIFF container. -/
def riffSignature : Bytes := [0x52, 0x49, 0x46, 0x46]

/-- The kind of a container with a WebP image. -/
def webpKind : Bytes := [0x57, 0x45, 0x42, 0x50]

/-- Bytes begin with a signature. -/
def hasHead (signature bytes : Bytes) : Bool := (Text.dropHead? signature bytes).isSome

/-- The format that the first bytes tell. The kind of a container follows its size, which takes
four bytes. -/
def sniff (bytes : Bytes) : Option ImageFormat :=
  if hasHead pngSignature bytes then some .png
  else if hasHead jpegSignature bytes then some .jpeg
  else if hasHead gif87Signature bytes || hasHead gif89Signature bytes then some .gif
  else if hasHead riffSignature bytes && hasHead webpKind (bytes.drop 8) then some .webp
  else none

end ImageFormat

namespace Icon

/-- Where an icon of a format is installed. -/
def file (drawableDir : Path) (format : ImageFormat) : Path :=
  drawableDir.join ("ya." ++ format.extension)

/-- The icons of other formats taken away. -/
def removeOthers (drawableDir : Path) (format : ImageFormat) : Task FilesError Unit :=
  (ImageFormat.all.filter fun other => other != format).forM fun other =>
    Task.removeFile (file drawableDir other)

/-- An icon installed under its name. Bytes that are no image change nothing. -/
def install (bytes : Bytes) (drawableDir : Path) : Task Cause Path :=
  match ImageFormat.sniff bytes with
  | none => throw .notAnImage
  | some format => do
    Task.explain .files do
      removeOthers drawableDir format
      Task.writeBytes (file drawableDir format) bytes
    return file drawableDir format

/-- The icon for apps that have none of their own. -/
def defaultIcon : String := "files/ya.png"

/-- The icon of the project, from its assets. -/
def installOwn (project : Project) (icon : String) (drawableDir : Path) : Task Cause Path := do
  let bytes ← Task.explain .files (Task.readBytes (project.assetsDir.join icon))
  install bytes drawableDir

/-- The default icon, from the runtime files. -/
def installDefault (drawableDir : Path) : Task Cause Path := do
  let source ← Task.explain .resource (Resources.get defaultIcon)
  let bytes ← Task.explain .files (Task.readBytes source)
  install bytes drawableDir

/-- The icon of an app prepared. An icon of its own must be usable; an app without one does
without the default too. -/
def prepare (project : Project) (drawableDir : Path) : Task BuildError (Option Path) :=
  match project.icon with
  | some icon => some <$> Task.explain (.icon icon) (installOwn project icon drawableDir)
  | none => do
    match ← (ExceptT.run (installDefault drawableDir) : StateM Workspace (Except Cause Path)) with
    | .ok path => return some path
    | .error _ => return none

end Icon

end ApkForge
