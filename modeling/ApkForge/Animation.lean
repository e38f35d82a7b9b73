-- The animations between the screens of an app: fades, a pause, zooms and slides, each a file of
-- markup made from a few numbers.
import ApkForge.Workspace
import ApkForge.Xml

namespace ApkForge.Animation

/-! ## Attributes -/

/-- How the speed changes over an animation. -/
def pace (kind : String) : String × String :=
  ("android:interpolator", "@android:anim/" ++ kind ++ "_interpolator")

/-- How long an animation takes. -/
def lasting (kind : String) : String × String :=
  ("android:duration", "@android:integer/config_" ++ kind ++ "AnimTime")

/-- A value at the start and at the end. -/
def between (what first last : String) : List (String × String) :=
  [("android:from" ++ what, first), ("android:to" ++ what, last)]

/-- A tag whose rows hang four columns in. -/
def tag (name : String) (rows : List (List (String × String))) : Tag := { name, rows, hang := 4 }

/-! ## Kinds -/

/-- A screen fades in or out. -/
def fade (first last : String) : List Mark :=
  [.stands 0 (tag "alpha" [[Mark.androidSpace], [pace "accelerate"], between "Alpha" first last,
    [lasting "medium"]])]

/-- A screen stays where it is. -/
def hold : List Mark :=
  [.stands 0 (tag "translate" [[Mark.androidSpace], [pace "accelerate"], between "XDelta" "0" "0",
    [lasting "long"]])]

/-- Several changes at once. -/
def together (changes : List Tag) : List Mark :=
  .opens 0 (tag "set" [[Mark.androidSpace], [pace "decelerate"]]).tight ::
    (changes.map (Mark.stands 2) ++ [.closes 0 "set"])

/-- A screen slides along an axis. -/
def slide (axis first last : String) : List Mark :=
  together [tag "translate" [between (axis ++ "Delta") first last, [lasting "medium"]]]

/-- A screen grows or shrinks about its middle while it fades. -/
def zoom (firstScale lastScale firstAlpha lastAlpha : String) : List Mark :=
  together [
    tag "scale" [between "XScale" firstScale lastScale, between "YScale" firstScale lastScale,
      [("android:pivotX", "50%p"), ("android:pivotY", "50%p")], [lasting "medium"]],
    tag "alpha" [between "Alpha" firstAlpha lastAlpha, [lasting "medium"]]]

/-! ## Files -/

/-- All animations by the names of their files. -/
def all : List (String × List Mark) := [
  ("fadein.xml", fade "0.0" "1.0"),
  ("fadeout.xml", fade "1.0" "0.0"),
  ("hold.xml", hold),
  ("zoom_enter.xml", zoom "2.0" "1.0" "0" "1.0"),
  ("zoom_exit.xml", zoom "1.0" ".5" "1.0" "0"),
  ("zoom_enter_reverse.xml", zoom ".5" "1.0" "0" "1.0"),
  ("zoom_exit_reverse.xml", zoom "1.0" "2.0" "1.0" "0"),
  ("slide_exit.xml", slide "X" "0%" "-100%"),
  ("slide_enter.xml", slide "X" "100%" "0%"),
  ("slide_exit_reverse.xml", slide "X" "0%" "100%"),
  ("slide_enter_reverse.xml", slide "X" "-100%" "0%"),
  ("slide_v_exit.xml", slide "Y" "0%" "-100%"),
  ("slide_v_enter.xml", slide "Y" "100%" "0%"),
  ("slide_v_exit_reverse.xml", slide "Y" "0%" "100%"),
  ("slide_v_enter_reverse.xml", slide "Y" "-100%" "0%")]

/-- All animation files with their texts. -/
def files : List (String × String) := all.map fun a => (a.1, Mark.document a.2)

/-- All animation files written to a directory. -/
def writeAll (dir : Path) : Task BuildError Unit :=
  files.forM fun f =>
    Task.explain (fun e => .stage .animation (.files e)) (Task.writeText (dir.join f.1) f.2)

end ApkForge.Animation
