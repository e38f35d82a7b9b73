-- What a build calls a tool for, and how much memory it grants it. Both are read off the command
-- line, so they say the same of a command whoever made it.
import ApkForge.Build

namespace ApkForge

/-! ## The use of a command -/

/-- What a build calls a tool for. -/
inductive Use where
  | compile
  | resourceClass (package : String)
  | compileClasses
  | predex
  | mergeFirst
  | mergeSecond
  | pack
  | addCode
  | sign
  | align
  | other
deriving DecidableEq, Repr

namespace Use

/-- The argument that names the container of a conversion. -/
def outputArg (output : Path) : String := "--output=" ++ output.text

/-- A conversion makes one of the two containers of a build, or else it is made beforehand. -/
def ofOutput (layout : BuildLayout) (arg : String) : Use :=
  if arg = outputArg (layout.tmp.join "classes.dex") then .mergeFirst
  else if arg = outputArg (layout.tmp.join "classes2.dex") then .mergeSecond
  else .predex

/-- What a build with a layout calls a command for. A conversion is known by its second and fourth
arguments, any other command by its first. -/
def of (layout : BuildLayout) (c : Command) : Use :=
  if c.args[1]? = some "-jar" ∧ c.args[3]? = some "--dex" then
    ofOutput layout (c.args[4]?.getD "")
  else if c.args[0]? = some "-Dfile.encoding=UTF-8" then .compile
  else if c.args[0]? = some "package" then
    if c.args[1]? = some "-v" then .pack else .resourceClass (c.args.getLast?.getD "")
  else if c.args[0]? = some "add" then .addCode
  else if c.args[0]? = some "-d" then .compileClasses
  else if c.args[0]? = some "-digestalg" then .sign
  else if c.args[0]? = some "-f" then .align
  else .other

/-- The uses that start a machine with a heap of its own. -/
def isHeavy : Use → Bool
  | .compile => true
  | .predex => true
  | .mergeFirst => true
  | .mergeSecond => true
  | _ => false

variable (layout : BuildLayout)

theorem of_compile (java : Path) (heap : Nat) (classpath : String) (runtime classesDir : Path)
    (package : String) (sources : List SourceFile) :
    of layout (Compiler.command java heap classpath runtime classesDir package sources) =
      .compile := by
  have hne : ("-mx" ++ (Compiler.heap heap).repr ++ "M" : String) ≠ "-jar" := by
    intro h
    have := congrArg (fun s : String => s.toList[1]?) h
    simp at this
  simp only [of, Compiler.command, Nat.toString_eq_repr, List.cons_append, List.nil_append]
  generalize ("-mx" ++ (Compiler.heap heap).repr ++ "M" : String) = flag at hne
  simp [hne]

theorem of_resourceClass (aapt androidJar resDir manifest genDir : Path) (package : String) :
    of layout (RobotFiles.generateCommand aapt androidJar resDir manifest genDir package) =
      .resourceClass package := by
  simp [of, RobotFiles.generateCommand]

theorem of_compileClasses (javac classesDir : Path) (sources : List Path) :
    of layout (RobotFiles.compileCommand javac classesDir sources) = .compileClasses := by
  simp [of, RobotFiles.compileCommand]

theorem of_pack (aapt manifest resDir assetsDir androidJar output libsDir : Path) :
    of layout (Packaging.packCommand aapt manifest resDir assetsDir androidJar output libsDir) =
      .pack := by
  simp [of, Packaging.packCommand]

theorem of_addCode (aapt apk dexDir : Path) (names : List String) :
    of layout (Packaging.sealCommand aapt apk dexDir names) = .addCode := by
  simp [of, Packaging.sealCommand]

theorem of_sign (jarsigner : Path) (key : Packaging.SigningKey) (apk : Path) :
    of layout (Packaging.signCommand jarsigner key apk) = .sign := by
  simp [of, Packaging.signCommand]

theorem of_align (zipalign apk aligned : Path) :
    of layout (Packaging.alignCommand zipalign apk aligned) = .align := by
  simp [of, Packaging.alignCommand]

theorem of_dex (m : DexMerger) (output : Path) (inputs : List Path) :
    of layout (m.command output inputs) = ofOutput layout (outputArg output) := rfl

end Use

/-! ## Containers -/

/-- A path ends in the name that it was joined with. -/
theorem Path.exists_text_join (p : Path) (name : String) :
    ∃ front, (p.join name).text = front ++ name := by
  unfold Path.join
  split
  · exact ⟨"", by simp⟩
  · split
    · exact ⟨p.text, rfl⟩
    · exact ⟨p.text ++ "/", rfl⟩

theorem Use.outputArg_inj {p q : Path} : Use.outputArg p = Use.outputArg q ↔ p = q := by
  constructor
  · intro h
    obtain ⟨p⟩ := p
    obtain ⟨q⟩ := q
    have := congrArg String.toList h
    simp only [Use.outputArg, String.toList_append, List.append_cancel_left_eq] at this
    rw [String.toList_injective this]
  · rintro rfl
    rfl

/-- The two containers of a build are different files. -/
theorem BuildLayout.first_ne_second (layout : BuildLayout) :
    layout.tmp.join "classes.dex" ≠ layout.tmp.join "classes2.dex" := by
  intro h
  have := congrArg (fun p : Path => p.text.toList) h
  have hrel : ∀ name ∈ ["classes.dex", "classes2.dex"], Text.beginsWith "/" name = false := by
    decide
  simp only [Path.join, hrel _ (List.mem_cons_self ..),
    hrel _ (List.mem_cons_of_mem _ (List.mem_cons_self ..)), Bool.false_eq_true, if_false] at this
  split at this
  · simp at this
  · simp at this

namespace Use

variable (layout : BuildLayout)

theorem ofOutput_first : ofOutput layout (outputArg (layout.tmp.join "classes.dex")) =
    .mergeFirst := by
  simp [ofOutput]

theorem ofOutput_second : ofOutput layout (outputArg (layout.tmp.join "classes2.dex")) =
    .mergeSecond := by
  have hne := layout.first_ne_second.symm
  simp [ofOutput, outputArg_inj, hne]

/-- A file of the cache is no container of a build: it has another extension. -/
theorem cachedFile_ne_join (cacheDir p : Path) (key name : String)
    (h : name.toList.getLast? = some 'x') : DexMerger.cachedFile cacheDir key ≠ p.join name := by
  intro he
  obtain ⟨front, hf⟩ := Path.exists_text_join cacheDir (key ++ ".jar")
  obtain ⟨front', hf'⟩ := Path.exists_text_join p name
  have := congrArg (fun p : Path => p.text.toList.getLast?) he
  simp only [DexMerger.cachedFile, hf, hf', String.toList_append, List.getLast?_append, h] at this
  simp at this

theorem ofOutput_cachedFile (cacheDir : Path) (key : String) :
    ofOutput layout (outputArg (DexMerger.cachedFile cacheDir key)) = .predex := by
  have h1 := cachedFile_ne_join cacheDir layout.tmp key "classes.dex" (by decide)
  have h2 := cachedFile_ne_join cacheDir layout.tmp key "classes2.dex" (by decide)
  simp [ofOutput, outputArg_inj, h1, h2]

end Use

/-! ## The memory of a command -/

namespace Command

/-- The number that stands before a unit. -/
def amount? (unit : Char) (cs : List Char) : Option Nat :=
  let digits := cs.takeWhile Char.isDigit
  if cs = digits ++ [unit] then some (Nat.ofDigitChars 10 digits 0) else none

/-- The megabytes that an argument of a Java machine sets as its heap. The older spelling has a
large unit and the newer one a small unit. -/
def heapFlag? (arg : String) : Option Nat :=
  match arg.toList with
  | '-' :: 'X' :: 'm' :: 'x' :: rest => amount? 'm' rest
  | '-' :: 'm' :: 'x' :: rest => amount? 'M' rest
  | _ => none

/-- The heap on a command line. -/
def heap? (c : Command) : Option Nat := c.args.findSome? heapFlag?

theorem amount?_digits (n : Nat) {unit : Char} (h : unit.isDigit = false) :
    amount? unit (Nat.toDigits 10 n ++ [unit]) = some n := by
  have hd : ∀ c ∈ Nat.toDigits 10 n, c.isDigit = true := fun c hc =>
    Nat.isDigit_of_mem_toDigits (by decide) (by decide) hc
  have hw : (Nat.toDigits 10 n ++ [unit]).takeWhile Char.isDigit = Nat.toDigits 10 n := by
    rw [List.takeWhile_append_of_pos hd]
    simp [h]
  simp [amount?, hw]

theorem heapFlag?_newer (n : Nat) : heapFlag? ("-Xmx" ++ toString n ++ "m") = some n := by
  have := amount?_digits n (show 'm'.isDigit = false by decide)
  simpa [heapFlag?] using this

theorem heapFlag?_older (n : Nat) : heapFlag? ("-mx" ++ toString n ++ "M") = some n := by
  have := amount?_digits n (show 'M'.isDigit = false by decide)
  simpa [heapFlag?] using this

/-- The heap of the compiler can be read on its command line. -/
theorem heap?_compile (java : Path) (heap : Nat) (classpath : String) (runtime classesDir : Path)
    (package : String) (sources : List SourceFile) :
    (Compiler.command java heap classpath runtime classesDir package sources).heap? =
      some (Compiler.heap heap) := by
  have hfirst : heapFlag? "-Dfile.encoding=UTF-8" = none := by decide
  simp only [heap?, Compiler.command, List.cons_append, List.findSome?_cons, hfirst,
    heapFlag?_older]

/-- The heap of a conversion can be read on its command line. -/
theorem heap?_dex (m : DexMerger) (output : Path) (inputs : List Path) :
    (m.command output inputs).heap? = some m.heap := by
  simp only [heap?, DexMerger.command, List.cons_append, List.findSome?_cons, heapFlag?_newer]

end Command

end ApkForge
