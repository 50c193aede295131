import Starry.Config.Validate
import Starry.Library.Largest
import Starry.Library.Text
import Starry.Library.Words

/-!
# The mount that holds a path

`persistent_filesystem` of pairing.rs and `validate_persistent_backing` of relay_enrollment.rs, in
which its loop stands again, over the text of `/proc/self/mountinfo`.
-/

open Library.Words
open Library.Text (byteLen)
open Library.Largest
open Starry.Config (components)

namespace Starry.Pairing

/-! ## The check -/

/-- `replace("\\040", " ")` -/
def replaceBlank : List Char → List Char
  | '\\' :: '0' :: '4' :: '0' :: text => ' ' :: replaceBlank text
  | c :: text => c :: replaceBlank text
  | [] => []

/-- `Path::starts_with` compares components. -/
def startsWith (path base : List Char) : Bool :=
  decide (components (String.ofList base) <+: components (String.ofList path))

/-- One turn of the loop. A line without the separator is skipped, and one with fewer fields has an
empty mount point. -/
def considerLine (path : List Char) (best : Option (Nat × List Char)) (line : List Char) :
    Option (Nat × List Char) :=
  match splitOnce [' ', '-', ' '] line with
  | none => best
  | some (left, right) =>
    let mountpoint := replaceBlank ((words isWhiteSpace left).getD 4 [])
    let filesystem := (words isWhiteSpace right).getD 0 []
    if startsWith path mountpoint && best.all fun found => found.1 < byteLen mountpoint then
      some (byteLen mountpoint, filesystem)
    else best

def bestMount (path mountinfo : List Char) : Option (Nat × List Char) :=
  (lines '\n' '\r' mountinfo).foldl (considerLine path) none

def persistentFilesystem (path mountinfo : List Char) : Option (List Char) :=
  (bestMount path mountinfo).map fun best => best.2

/-- What `validate_persistent_directory` and `validate_persistent_backing` answer. -/
structure BackingErrors where
  missing : String
  mountinfoUnavailable : String
  notDurable : String
  mountUnknown : String

def volatile (filesystem : List Char) : Bool :=
  filesystem == "overlay".toList || filesystem == "tmpfs".toList

/-- The path as `fs::canonicalize` has it and the text of mountinfo, each unless it is refused. -/
def checkBacking (errors : BackingErrors) (canonical mountinfo : Option (List Char)) :
    Except String Unit :=
  match canonical, mountinfo with
  | none, _ => .error errors.missing
  | some _, none => .error errors.mountinfoUnavailable
  | some path, some text =>
    match (bestMount path text).map fun best => best.2 with
    | some filesystem => if volatile filesystem then .error errors.notDurable else .ok ()
    | none => .error errors.mountUnknown

def validatePersistentDirectory : Option (List Char) → Option (List Char) → Except String Unit :=
  checkBacking
    { missing := "persistent_state_directory_missing"
      mountinfoUnavailable := "persistent_state_mountinfo_unavailable"
      notDurable := "persistent_state_not_durable"
      mountUnknown := "persistent_state_mount_unknown" }

def validatePersistentBacking : Option (List Char) → Option (List Char) → Except String Unit :=
  checkBacking
    { missing := "relay_enrollment_directory_missing"
      mountinfoUnavailable := "relay_enrollment_mountinfo_unavailable"
      notDurable := "relay_enrollment_not_persistent"
      mountUnknown := "relay_enrollment_mount_unknown" }

/-- Both are made of the same loop, so they accept the same. -/
theorem checkBacking_ok (errors : BackingErrors) (path text : List Char) :
    checkBacking errors (some path) (some text) = .ok () ↔
      ∃ filesystem, persistentFilesystem path text = some filesystem ∧
        volatile filesystem = false := by
  simp only [checkBacking, persistentFilesystem]
  generalize (bestMount path text).map (fun best => best.2) = found
  cases found with
  | none => simp
  | some filesystem => cases hv : volatile filesystem <;> simp [hv]

/-! ## The text of mountinfo -/

/-- A name between slashes. -/
abbrev FileName :=
  { name : List Char // name ≠ [] ∧ '/' ∉ name ∧ name ≠ ['.'] ∧ name ≠ ['.', '.'] }

/-- A canonical absolute path. -/
abbrev FullPath := List FileName

def FullPath.text (path : FullPath) : List Char :=
  '/' :: ['/'].intercalate (path.map Subtype.val)

/-- Blanks, tabs, newlines and backslashes are written in octal. -/
def octal (c : Char) : List Char :=
  if c = ' ' then ['\\', '0', '4', '0']
  else if c = '\t' then ['\\', '0', '1', '1']
  else if c = '\n' then ['\\', '0', '1', '2']
  else if c = '\\' then ['\\', '1', '3', '4']
  else [c]

def escape (text : List Char) : List Char := text.flatMap octal

/-- A field of a line as it is written. -/
abbrev Field :=
  { text : List Char // text ≠ [] ∧ text ≠ ['-'] ∧ ' ' ∉ text ∧ '\t' ∉ text ∧ '\n' ∉ text }

/-- The name of a type of filesystem. -/
abbrev TypeName := { name : List Char // name ≠ [] ∧ name.all fun c => !isWhiteSpace c }

/-- A line of mountinfo. -/
structure Mount where
  id : Nat
  parent : Nat
  device : Nat × Nat
  root : Field
  point : FullPath
  options : Field
  tags : List Field
  filesystem : TypeName
  source : { text : List Char // '\n' ∉ text }
  superOptions : { text : List Char // '\n' ∉ text }

namespace Mount

def number (n : Nat) : List Char := Nat.toDigits 10 n

def fields (m : Mount) : List (List Char) :=
  number m.id :: number m.parent :: (number m.device.1 ++ ':' :: number m.device.2) ::
    m.root.val :: escape m.point.text :: m.options.val :: m.tags.map Subtype.val

def left (m : Mount) : List Char := [' '].intercalate m.fields

def right (m : Mount) : List Char :=
  m.filesystem.val ++ ' ' :: (m.source.val ++ ' ' :: m.superOptions.val)

def line (m : Mount) : List Char := m.left ++ ([' ', '-', ' '] ++ m.right)

end Mount

def mountinfo (mounts : List Mount) : List Char :=
  (mounts.map Mount.line).flatMap fun line => line ++ ['\n']

/-! ## The mount that really holds a path -/

/-- The number of names in a mount point at or above the path. -/
def Mount.depth (path : FullPath) (m : Mount) : Option Nat :=
  if m.point <+: path then some m.point.length else none

/-- The last one listed of the longest mount points that hold the path: a later line for a mount
point hides an earlier one. -/
def Holder (mounts : List Mount) (path : FullPath) (m : Mount) : Prop :=
  Last (Mount.depth path) mounts m

/-- The check goes by the mount that holds the path. -/
def GoesByHolder (mounts : List Mount) (path : FullPath) : Prop :=
  (∀ filesystem, persistentFilesystem path.text (mountinfo mounts) = some filesystem ↔
    ∃ m, Holder mounts path m ∧ m.filesystem.val = filesystem) ∧
  (validatePersistentBacking (some path.text) (some (mountinfo mounts)) = .ok () ↔
    ∃ m, Holder mounts path m ∧ volatile m.filesystem.val = false)

/-! ## What the check sees -/

/-- No field up to the mount point has white space that the words end at, and nothing in the mount
point but a blank is written in octal. -/
structure Mount.Plain (m : Mount) : Prop where
  root : ∀ c ∈ m.root.val, isWhiteSpace c = false
  point : ∀ c ∈ m.point.text, (isWhiteSpace c = true → c = ' ') ∧ c ≠ '\\'

/-- The fifth word of the line, of which only the blanks are decoded. -/
def Mount.seenPoint (m : Mount) : List Char :=
  replaceBlank ((words isWhiteSpace m.left).getD 4 [])

def Mount.seenSize (path : FullPath) (m : Mount) : Option Nat :=
  if startsWith path.text m.seenPoint then some (byteLen m.seenPoint) else none

/-! ## Fields -/

theorem isWhiteSpace_of_isDigit {c : Char} (h : c.isDigit = true) : isWhiteSpace c = false := by
  rw [Char.isDigit, Bool.and_eq_true, decide_eq_true_eq, decide_eq_true_eq] at h
  have hlow : 48 ≤ c.toNat := UInt32.le_iff_toNat_le.mp h.1
  have hhigh : c.toNat ≤ 57 := UInt32.le_iff_toNat_le.mp h.2
  simp only [isWhiteSpace, Bool.or_eq_false_iff, Bool.and_eq_false_iff, decide_eq_false_iff_not,
    beq_eq_false_iff_ne]
  omega

/-- A text of digits and a colon, as numbers and devices are written. -/
def Numeric (text : List Char) : Prop := text ≠ [] ∧ ∀ c ∈ text, c.isDigit = true ∨ c = ':'

theorem Numeric.number (n : Nat) : Numeric (Mount.number n) :=
  ⟨Nat.toDigits_ne_nil, fun _ hc =>
    .inl (Nat.isDigit_of_mem_toDigits (by decide) (by decide) hc)⟩

theorem Numeric.device (major minor : Nat) :
    Numeric (Mount.number major ++ ':' :: Mount.number minor) := by
  refine ⟨by simp, ?_⟩
  intro c hc
  rcases List.mem_append.mp hc with hc | hc
  · exact (number major).2 c hc
  · rcases List.mem_cons.mp hc with rfl | hc
    · exact .inr rfl
    · exact (number minor).2 c hc

theorem Numeric.not_isWhiteSpace {text : List Char} (h : Numeric text) :
    ∀ c ∈ text, isWhiteSpace c = false := by
  intro c hc
  rcases h.2 c hc with hdigit | rfl
  · exact isWhiteSpace_of_isDigit hdigit
  · decide

theorem Numeric.not_mem {text : List Char} {c : Char} (h : Numeric text)
    (hc : c.isDigit = false ∧ c ≠ ':') : c ∉ text := by
  intro hmem
  rcases h.2 c hmem with hdigit | hcolon
  · rw [hc.1] at hdigit
    cases hdigit
  · exact hc.2 hcolon

theorem Numeric.ne_dash {text : List Char} (h : Numeric text) : text ≠ ['-'] := by
  rintro rfl
  exact h.not_mem (by decide) (List.mem_singleton.mpr rfl)

theorem not_mem_octal {c d : Char} (hd : d = ' ' ∨ d = '\t' ∨ d = '\n') : d ∉ octal c := by
  unfold octal
  split_ifs with h1 h2 h3 h4
  · rcases hd with rfl | rfl | rfl <;> decide
  · rcases hd with rfl | rfl | rfl <;> decide
  · rcases hd with rfl | rfl | rfl <;> decide
  · rcases hd with rfl | rfl | rfl <;> decide
  · rw [List.mem_singleton]
    rintro rfl
    rcases hd with rfl | rfl | rfl <;> contradiction

theorem not_mem_escape {text : List Char} {d : Char} (hd : d = ' ' ∨ d = '\t' ∨ d = '\n') :
    d ∉ escape text := by
  intro hmem
  obtain ⟨c, -, hc⟩ := List.mem_flatMap.mp hmem
  exact not_mem_octal hd hc

/-- The path begins with a slash, which stays. -/
theorem escape_text (path : FullPath) :
    escape path.text = '/' :: escape (['/'].intercalate (path.map Subtype.val)) := by
  rw [FullPath.text, escape, List.flatMap_cons]
  rfl

namespace Mount

variable {m : Mount}

theorem fields_spec : ∀ field ∈ m.fields,
    field ≠ [] ∧ ' ' ∉ field ∧ field ≠ ['-'] ∧ '\n' ∉ field := by
  have hnumeric : ∀ text, Numeric text →
      text ≠ [] ∧ ' ' ∉ text ∧ text ≠ ['-'] ∧ '\n' ∉ text := fun text h =>
    ⟨h.1, h.not_mem (by decide), h.ne_dash, h.not_mem (by decide)⟩
  have hfield : ∀ field : Field,
      field.val ≠ [] ∧ ' ' ∉ field.val ∧ field.val ≠ ['-'] ∧ '\n' ∉ field.val := fun field =>
    ⟨field.2.1, field.2.2.2.1, field.2.2.1, field.2.2.2.2.2⟩
  intro field h
  simp only [fields, List.mem_cons, List.mem_map] at h
  rcases h with rfl | rfl | rfl | rfl | rfl | rfl | ⟨tag, -, rfl⟩
  · exact hnumeric _ (Numeric.number _)
  · exact hnumeric _ (Numeric.number _)
  · exact hnumeric _ (Numeric.device _ _)
  · exact hfield _
  · refine ⟨by simp [escape_text], not_mem_escape (.inl rfl), ?_, not_mem_escape (.inr (.inr rfl))⟩
    rw [escape_text]
    intro h
    exact absurd (List.cons.inj h).1 (by decide)
  · exact hfield _
  · exact hfield _

theorem left_newline : '\n' ∉ m.left :=
  not_mem_intercalate (by decide) fun field h => (fields_spec field h).2.2.2

theorem line_newline : '\n' ∉ m.line := by
  have hname : '\n' ∉ m.filesystem.val := by
    intro h
    have hno := List.all_eq_true.mp m.filesystem.2.2 _ h
    exact absurd hno (by decide)
  have hright : '\n' ∉ m.right := by
    simp [right, hname, m.source.2, m.superOptions.2]
  simp [line, left_newline, hright]

/-- What is read of a line: the carriage return that a line may lose stands behind the type. -/
theorem stripReturn_line : ∃ rest, stripReturn '\r' m.line =
    m.left ++ ([' ', '-', ' '] ++ (m.filesystem.val ++ ' ' :: rest)) := by
  refine ⟨stripReturn '\r' (m.source.val ++ ' ' :: m.superOptions.val), ?_⟩
  have hback : m.line = (m.left ++ ([' ', '-', ' '] ++ (m.filesystem.val ++ [' ']))) ++
      (m.source.val ++ ' ' :: m.superOptions.val) := by
    simp [line, right]
  rw [hback, stripReturn_append (by simp)]
  simp

/-- The step lemma: a line of mountinfo is looked at as its mount is seen. -/
theorem considerLine_line {path : FullPath} {best : Option (Nat × List Char)} :
    considerLine path.text best (stripReturn '\r' m.line) =
      pick (Mount.seenSize path) (fun mount => mount.filesystem.val) best m := by
  obtain ⟨rest, hrest⟩ := stripReturn_line (m := m)
  have hsplit : splitOnce [' ', '-', ' '] (stripReturn '\r' m.line) =
      some (m.left, m.filesystem.val ++ ' ' :: rest) := by
    rw [hrest]
    refine splitOnce_words (by simp [fields]) ?_
    intro field h
    obtain ⟨hne, hblank, hdash, -⟩ := fields_spec field h
    exact ⟨hne, hblank, hdash⟩
  have hplain : ∀ c ∈ m.filesystem.val, isWhiteSpace c = false := by
    intro c hc
    simpa using List.all_eq_true.mp m.filesystem.2.2 c hc
  have hname : (words isWhiteSpace (m.filesystem.val ++ ' ' :: rest)).getD 0 [] =
      m.filesystem.val := by
    rw [words_cons m.filesystem.2.1 hplain (by decide)]
    rfl
  have hpoint : replaceBlank ((words isWhiteSpace m.left).getD 4 []) = m.seenPoint := rfl
  simp only [considerLine, hsplit, hname, hpoint, pick, seenSize]
  cases hstart : startsWith path.text m.seenPoint with
  | true => simp
  | false => simp

end Mount

/-- The run lemma: the loop over the text is a search among the mounts. -/
theorem bestMount_mountinfo (mounts : List Mount) (path : FullPath) :
    bestMount path.text (mountinfo mounts) =
      mounts.foldl (pick (Mount.seenSize path) fun mount => mount.filesystem.val) none := by
  have hlines : lines '\n' '\r' (mountinfo mounts) =
      (mounts.map Mount.line).map (stripReturn '\r') := by
    refine lines_flatMap ?_
    intro line h
    obtain ⟨m, -, rfl⟩ := List.mem_map.mp h
    exact Mount.line_newline
  have hturn : (fun best m => considerLine path.text best ((stripReturn '\r' ∘ Mount.line) m)) =
      pick (Mount.seenSize path) fun mount => mount.filesystem.val := by
    funext best m
    exact Mount.considerLine_line
  rw [bestMount, hlines, List.map_map, List.foldl_map, hturn]

/-- The check answers the type of the first mount it sees among the longest ones. -/
theorem persistentFilesystem_eq_some {mounts : List Mount} {path : FullPath}
    {filesystem : List Char} :
    persistentFilesystem path.text (mountinfo mounts) = some filesystem ↔
      ∃ m, First (Mount.seenSize path) mounts m ∧ m.filesystem.val = filesystem := by
  rw [persistentFilesystem, bestMount_mountinfo]
  exact foldl_pick_eq_some

-- The most specific mount decides, as the test of the preflight has it.
example : persistentFilesystem "/starry-persist/control/state".toList
    ("1 0 0:1 / / rw - overlay overlay rw\n" ++
      "2 1 8:1 /data /starry-persist rw - ext4 /dev/sda1 rw\n" ++
      "3 1 0:2 / /starry-persist/control/tmp rw - tmpfs tmpfs rw\n").toList =
    some "ext4".toList := by decide +kernel

/-! ## Full paths -/

theorem components_text (path : FullPath) :
    components (String.ofList path.text) =
      .rootDir :: path.map fun name => Config.Component.normal name.val := by
  have habs : Config.isAbsolute (String.ofList path.text) = true := by
    simp [Config.isAbsolute, FullPath.text]
  have hnames : ∀ (names : FullPath) (k : Nat),
      ((names.map Subtype.val).zipIdx (k + 1)).filterMap (fun part =>
        if part.1.isEmpty then none
        else if part.1 == ['.'] then if part.2 = 0 then some .curDir else none
        else if part.1 == ['.', '.'] then some .parentDir
        else some (.normal part.1)) =
      names.map fun name => Config.Component.normal name.val := by
    intro names
    induction names with
    | nil =>
      intro k
      rfl
    | cons name names ih =>
      intro k
      obtain ⟨hne, -, hdot, hdots⟩ := name.2
      rw [List.map_cons, List.zipIdx_cons, List.filterMap_cons]
      simp only [List.isEmpty_eq_false_iff.mpr hne, beq_eq_false_iff_ne.mpr hdot,
        beq_eq_false_iff_ne.mpr hdots, Bool.false_eq_true, if_false, ih (k + 1), List.map_cons]
  have hsplit : path.text.splitOn '/' =
      [] :: (['/'].intercalate (path.map Subtype.val)).splitOn '/' :=
    List.splitOn_append_cons_self_of_not_mem List.not_mem_nil _
  rw [components, if_pos habs, String.toList_ofList, hsplit, List.zipIdx_cons,
    List.filterMap_cons, List.isEmpty_nil, if_pos rfl, List.singleton_append]
  cases path with
  | nil => rfl
  | cons name path =>
    have hslash : ∀ text ∈ (name :: path).map Subtype.val, '/' ∉ text := by
      intro text h
      obtain ⟨name, -, rfl⟩ := List.mem_map.mp h
      exact name.2.2.1
    rw [List.splitOn_intercalate '/' hslash (by simp)]
    exact congrArg _ (hnames _ 0)

/-- On full paths the components are the names. -/
theorem startsWith_text {path base : FullPath} :
    startsWith path.text base.text = true ↔ base <+: path := by
  have hinj : Function.Injective fun name : FileName => Config.Component.normal name.val := by
    intro a b h
    exact Subtype.ext (Config.Component.normal.inj h)
  rw [startsWith, decide_eq_true_eq, components_text, components_text, List.cons_prefix_cons,
    List.prefix_map_iff_of_injective hinj, eq_self_iff_true, true_and]

/-- The bytes of the names, each with its slash. -/
def FullPath.weight (path : FullPath) : Nat := (path.map fun name => 1 + byteLen name.val).sum

theorem byteLen_pos {text : List Char} (h : text ≠ []) : 0 < byteLen text := by
  cases text with
  | nil => exact absurd rfl h
  | cons c text =>
    rw [Library.Text.byteLen_cons]
    have hpos := c.utf8Size_pos
    omega

theorem FullPath.byteLen_text (path : FullPath) :
    byteLen path.text = if path = [] then 1 else path.weight := by
  induction path with
  | nil => rfl
  | cons name path ih =>
    cases path with
    | nil =>
      simp [text, weight]
      rfl
    | cons next path =>
      have htext : text (name :: next :: path) = '/' :: (name.val ++ text (next :: path)) := by
        simp [text]
      rw [htext, Library.Text.byteLen_cons, Library.Text.byteLen_append, ih,
        if_neg (List.cons_ne_nil _ _), if_neg (List.cons_ne_nil _ _), weight, weight, List.map_cons,
        List.sum_cons, ← Nat.add_assoc]
      rfl

/-- Of two mount points that hold the path the one with more names is the longer text. -/
theorem byteLen_text_lt {a b : FullPath} (h : a <+: b) (hlt : a.length < b.length) :
    byteLen a.text < byteLen b.text := by
  obtain ⟨rest, rfl⟩ := h
  cases rest with
  | nil => simp at hlt
  | cons name rest =>
    have hpos := byteLen_pos name.2.1
    have hne : a ++ name :: rest ≠ [] := by simp
    rw [FullPath.byteLen_text, FullPath.byteLen_text, if_neg hne]
    have hsum : (a ++ name :: rest).weight =
        a.weight + (1 + byteLen name.val + FullPath.weight rest) := by
      simp [FullPath.weight]
    rw [hsum]
    split_ifs <;> omega

theorem byteLen_text_le {a b path : FullPath} (ha : a <+: path) (hb : b <+: path) :
    a.length ≤ b.length ↔ byteLen a.text ≤ byteLen b.text := by
  rcases Nat.lt_trichotomy a.length b.length with hlt | heq | hgt
  · have hbytes := byteLen_text_lt (List.prefix_of_prefix_length_le ha hb hlt.le) hlt
    omega
  · rw [(List.prefix_of_prefix_length_le ha hb heq.le).eq_of_length heq]
    simp
  · have hbytes := byteLen_text_lt (List.prefix_of_prefix_length_le hb ha hgt.le) hgt
    omega

/-! ## Plain lines -/

/-- Of the characters of a plain mount point only the blank is written in octal. -/
theorem octal_plain {c : Char} (h : (isWhiteSpace c = true → c = ' ') ∧ c ≠ '\\') :
    octal c = if c = ' ' then ['\\', '0', '4', '0'] else [c] := by
  have htab : c ≠ '\t' := by
    rintro rfl
    exact absurd (h.1 (by decide)) (by decide)
  have hnewline : c ≠ '\n' := by
    rintro rfl
    exact absurd (h.1 (by decide)) (by decide)
  rw [octal, if_neg htab, if_neg hnewline, if_neg h.2]

theorem replaceBlank_escape {text : List Char}
    (h : ∀ c ∈ text, (isWhiteSpace c = true → c = ' ') ∧ c ≠ '\\') :
    replaceBlank (escape text) = text := by
  induction text with
  | nil => rfl
  | cons c text ih =>
    have hrest := ih fun d hd => h d (List.mem_cons_of_mem _ hd)
    have hc := h c List.mem_cons_self
    rw [escape, List.flatMap_cons, octal_plain hc]
    by_cases hblank : c = ' '
    · rw [if_pos hblank, hblank]
      exact congrArg (' ' :: ·) hrest
    · rw [if_neg hblank, List.singleton_append, replaceBlank]
      · exact congrArg (c :: ·) hrest
      · intro text heq
        exact absurd heq hc.2

theorem escape_not_isWhiteSpace {text : List Char}
    (h : ∀ c ∈ text, (isWhiteSpace c = true → c = ' ') ∧ c ≠ '\\') :
    ∀ c ∈ escape text, isWhiteSpace c = false := by
  intro c hc
  obtain ⟨d, hd, hmem⟩ := List.mem_flatMap.mp hc
  rw [octal_plain (h d hd)] at hmem
  by_cases hblank : d = ' '
  · rw [if_pos hblank] at hmem
    simp only [List.mem_cons, List.not_mem_nil, or_false] at hmem
    rcases hmem with rfl | rfl | rfl | rfl <;> decide
  · rw [if_neg hblank, List.mem_singleton] at hmem
    rw [hmem, ← Bool.not_eq_true]
    exact fun hspace => hblank ((h d hd).1 hspace)

theorem Mount.Plain.seenPoint {m : Mount} (h : m.Plain) : m.seenPoint = m.point.text := by
  have hpoint : escape m.point.text ≠ [] := by simp [escape_text]
  have hblank : isWhiteSpace ' ' = true := by decide
  rw [Mount.seenPoint, Mount.left, Mount.fields,
    words_intercalate (Numeric.number _).1 (Numeric.number _).not_isWhiteSpace hblank,
    words_intercalate (Numeric.number _).1 (Numeric.number _).not_isWhiteSpace hblank,
    words_intercalate (Numeric.device _ _).1 (Numeric.device _ _).not_isWhiteSpace hblank,
    words_intercalate m.root.2.1 h.root hblank,
    words_intercalate hpoint (escape_not_isWhiteSpace h.point) hblank]
  exact replaceBlank_escape h.point

/-- Where every line is plain the check sees the mount points that are there. -/
theorem first_seen_iff {mounts : List Mount} {path : FullPath} {m : Mount}
    (hplain : ∀ m ∈ mounts, m.Plain) :
    First (Mount.seenSize path) mounts m ↔ First (Mount.depth path) mounts m := by
  have hsize : ∀ m ∈ mounts, Mount.seenSize path m =
      if m.point <+: path then some (byteLen m.point.text) else none := by
    intro m hm
    simp only [Mount.seenSize, (hplain m hm).seenPoint, startsWith_text]
  have hsome : ∀ m ∈ mounts, (Mount.seenSize path m).isSome = (Mount.depth path m).isSome := by
    intro m hm
    rw [hsize m hm, Mount.depth]
    split_ifs <;> rfl
  have horder : ∀ a ∈ mounts, ∀ b ∈ mounts, ∀ k n k' n', Mount.seenSize path a = some k →
      Mount.seenSize path b = some n → Mount.depth path a = some k' →
      Mount.depth path b = some n' → (k ≤ n ↔ k' ≤ n') := by
    intro a ha b hb k n k' n' hk hn hk' hn'
    rw [hsize a ha] at hk
    rw [hsize b hb] at hn
    rw [Mount.depth] at hk' hn'
    split_ifs at hk hk' hn hn' with hap hbp
    cases hk
    cases hn
    cases hk'
    cases hn'
    exact (byteLen_text_le hap hbp).symm
  constructor
  · intro h
    exact h.of_order hsome horder
  · intro h
    refine h.of_order (fun m hm => (hsome m hm).symm) ?_
    intro a ha b hb k n k' n' hk hn hk' hn'
    exact (horder a ha b hb k' n' k n hk' hn' hk hn).symm

/-! ## When the check goes by the mount that holds the path -/

/-- The first and the last mount listed at the longest mount point have one type. Where some line is
not plain, the first one is of the mount points that the check sees. -/
def SameType (mounts : List Mount) (path : FullPath) : Prop :=
  ((∀ m ∈ mounts, m.Plain) ∧ ∀ f m, First (Mount.depth path) mounts f → Holder mounts path m →
    f.filesystem.val = m.filesystem.val) ∨
  ((∃ m ∈ mounts, ¬ m.Plain) ∧ ∀ filesystem : List Char,
    (∃ f, First (Mount.seenSize path) mounts f ∧ f.filesystem.val = filesystem) ↔
      ∃ m, Holder mounts path m ∧ m.filesystem.val = filesystem)

/-- What the check accepts follows from the type it goes by. -/
theorem goes_by_holder_iff_seen {mounts : List Mount} {path : FullPath} :
    GoesByHolder mounts path ↔ ∀ filesystem : List Char,
      (∃ f, First (Mount.seenSize path) mounts f ∧ f.filesystem.val = filesystem) ↔
        ∃ m, Holder mounts path m ∧ m.filesystem.val = filesystem := by
  constructor
  · intro h filesystem
    exact persistentFilesystem_eq_some.symm.trans (h.1 filesystem)
  · intro h
    have htype : ∀ filesystem,
        persistentFilesystem path.text (mountinfo mounts) = some filesystem ↔
          ∃ m, Holder mounts path m ∧ m.filesystem.val = filesystem := fun filesystem =>
      persistentFilesystem_eq_some.trans (h filesystem)
    refine ⟨htype, (checkBacking_ok _ _ _).trans ?_⟩
    constructor
    · rintro ⟨filesystem, hsome, hdurable⟩
      obtain ⟨m, hm, rfl⟩ := (htype filesystem).mp hsome
      exact ⟨m, hm, hdurable⟩
    · rintro ⟨m, hm, hdurable⟩
      exact ⟨_, (htype _).mpr ⟨m, hm, rfl⟩, hdurable⟩

theorem goes_by_holder_iff (mounts : List Mount) (path : FullPath) :
    GoesByHolder mounts path ↔ SameType mounts path := by
  rw [goes_by_holder_iff_seen]
  by_cases hplain : ∀ m ∈ mounts, m.Plain
  · have hone : SameType mounts path ↔ ∀ f m, First (Mount.depth path) mounts f →
        Holder mounts path m → f.filesystem.val = m.filesystem.val := by
      refine ⟨?_, fun h => .inl ⟨hplain, h⟩⟩
      rintro (⟨-, h⟩ | ⟨⟨m, hm, hodd⟩, -⟩)
      · exact h
      · exact absurd (hplain m hm) hodd
    rw [hone]
    simp only [first_seen_iff hplain]
    constructor
    · intro h f m hf hm
      obtain ⟨f', hf', heq⟩ := (h m.filesystem.val).mpr ⟨m, hm, rfl⟩
      rw [hf.unique hf', heq]
    · intro h filesystem
      constructor
      · rintro ⟨f, hf, rfl⟩
        obtain ⟨m, hm⟩ := exists_last_iff.mpr ⟨f, hf⟩
        exact ⟨m, hm, (h f m hf hm).symm⟩
      · rintro ⟨m, hm, rfl⟩
        obtain ⟨f, hf⟩ := exists_last_iff.mp ⟨m, hm⟩
        exact ⟨f, hf, h f m hf hm⟩
  · have hodd : ∃ m ∈ mounts, ¬ m.Plain := by
      simpa only [not_forall, exists_prop] using hplain
    refine ⟨fun h => .inr ⟨hodd, h⟩, ?_⟩
    rintro (⟨hall, -⟩ | ⟨-, h⟩)
    · exact absurd hall hplain
    · exact h

/-! ## Stacked mounts -/

/-- A mount of a volume of its own, mounted read-write. -/
def plainMount (n : Nat) (point : FullPath) (filesystem : TypeName) : Mount where
  id := n
  parent := 1
  device := (8, n)
  root := ⟨['/'], by decide⟩
  point := point
  options := ⟨['r', 'w'], by decide⟩
  tags := []
  filesystem := filesystem
  source := ⟨['/', 'd', 'e', 'v'], by decide⟩
  superOptions := ⟨['r', 'w'], by decide⟩

def ext4 : TypeName := ⟨"ext4".toList, by decide⟩

def tmpfs : TypeName := ⟨"tmpfs".toList, by decide⟩

def dataName : FileName := ⟨"data".toList, by decide⟩

/-- A tmpfs is mounted over the volume at `/data`. -/
def stacked : List Mount :=
  [plainMount 1 [] ext4, plainMount 2 [dataName] ext4, plainMount 3 [dataName] tmpfs]

theorem holder_stacked : Holder stacked [dataName] (plainMount 3 [dataName] tmpfs) := by
  refine ⟨2, 1, rfl, by decide, ?_⟩
  intro j b k hj hk
  rcases j with _ | _ | _ | j
  · cases hj
    cases hk
    decide
  · cases hj
    cases hk
    decide
  · cases hj
    cases hk
    decide
  · cases hj

/-- What is stored below `/data` is in memory, and the check accepts it as durable. -/
theorem stacked_volatile :
    Holder stacked [dataName] (plainMount 3 [dataName] tmpfs) ∧
      persistentFilesystem (FullPath.text [dataName]) (mountinfo stacked) = some "ext4".toList ∧
      validatePersistentBacking (some (FullPath.text [dataName])) (some (mountinfo stacked)) =
        .ok () ∧
      ¬ GoesByHolder stacked [dataName] := by
  have hext4 : persistentFilesystem (FullPath.text [dataName]) (mountinfo stacked) =
      some "ext4".toList := by decide
  refine ⟨holder_stacked, hext4, ?_, ?_⟩
  · exact (checkBacking_ok _ _ _).mpr ⟨_, hext4, by decide⟩
  · intro h
    have htmpfs := (h.1 "tmpfs".toList).mpr ⟨_, holder_stacked, rfl⟩
    rw [hext4] at htmpfs
    exact absurd htmpfs (by decide)

end Starry.Pairing
