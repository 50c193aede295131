import Starry.ConfigStore.Json

/-!
# The changes of a plan (`collect_changes`)

Two documents are walked together. A change is listed where one of them ends or where a value that is
not an object is replaced; below an object that both have, the walk goes on by keys.
-/

namespace Starry.ConfigStore

/-! ## Pointers -/

/-- `str::replace` of one character. -/
def replaceChar (c : Char) (replacement : String) (s : String) : String :=
  String.ofList (s.toList.flatMap fun d => if d = c then replacement.toList else [d])

def escape (key : String) : String := replaceChar '/' "~1" (replaceChar '~' "~0" key)

/-- `Vec::dedup`: of equal neighbours the first stays. -/
def dedup : List String → List String
  | [] => []
  | [key] => [key]
  | key :: next :: keys => if key = next then dedup (next :: keys) else key :: dedup (next :: keys)

/-- The keys of two objects, in order and each once. -/
def mergedKeys (left right : List (String × Value)) : List String :=
  dedup ((left.map Prod.fst ++ right.map Prod.fst).mergeSort fun a b => a ≤ b)

/-! ## The walk -/

def change (pointer kind : String) : Value :=
  .object [("kind", .string kind), ("pointer", .string pointer)]

theorem sizeOf_lookup (fields : List (String × Value)) (key : String) :
    sizeOf (fields.lookup key) < sizeOf (some (Value.object fields)) := by
  induction fields with
  | nil => simp
  | cons field fields ih =>
    obtain ⟨other, v⟩ := field
    rw [List.lookup_cons]
    split
    · simp only [Option.some.sizeOf_spec, Value.object.sizeOf_spec, List.cons.sizeOf_spec,
        Prod.mk.sizeOf_spec]
      omega
    · simp only [Option.some.sizeOf_spec, Value.object.sizeOf_spec, List.cons.sizeOf_spec] at ih ⊢
      omega

def collectChanges (pointer : String) (before after : Option Value) : List Value :=
  if before = after then []
  else match before, after with
    | some (.object left), some (.object right) =>
      (mergedKeys left right).flatMap fun key =>
        collectChanges (pointer ++ "/" ++ escape key) (left.lookup key) (right.lookup key)
    | none, some _ => [change pointer "add"]
    | some _, none => [change pointer "remove"]
    | _, _ => [change pointer "replace"]
termination_by sizeOf before
decreasing_by exact sizeOf_lookup left key

/-! ## Decoding a pointer -/

/-- The escapes of RFC 6901. -/
def unescape : List Char → List Char
  | '~' :: '0' :: rest => '~' :: unescape rest
  | '~' :: '1' :: rest => '/' :: unescape rest
  | c :: rest => c :: unescape rest
  | [] => []

def decodePointer (pointer : String) : List String :=
  ((pointer.toList.splitOn '/').drop 1).map fun token => String.ofList (unescape token)

def pointerTo (path : List String) : String :=
  String.join (path.map fun key => "/" ++ escape key)

def escapeChar (c : Char) : List Char :=
  if c = '~' then ['~', '0'] else if c = '/' then ['~', '1'] else [c]

theorem toList_escape (key : String) : (escape key).toList = key.toList.flatMap escapeChar := by
  unfold escape replaceChar
  simp only [String.toList_ofList, List.flatMap_assoc]
  congr 1
  funext c
  unfold escapeChar
  by_cases htilde : c = '~'
  · subst htilde
    decide
  · by_cases hslash : c = '/' <;> simp [htilde, hslash]

theorem unescape_cons {c : Char} (h : c ≠ '~') (rest : List Char) :
    unescape (c :: rest) = c :: unescape rest := by
  rw [unescape] <;> simp [h]

theorem unescape_escape (text : List Char) : unescape (text.flatMap escapeChar) = text := by
  induction text with
  | nil => rfl
  | cons c text ih =>
    rw [List.flatMap_cons]
    by_cases htilde : c = '~'
    · simp [escapeChar, htilde, unescape, ih]
    by_cases hslash : c = '/'
    · simp [escapeChar, hslash, unescape, ih]
    have hc : escapeChar c = [c] := by simp [escapeChar, htilde, hslash]
    rw [hc, List.singleton_append, unescape_cons htilde, ih]

theorem slash_notMem_escape (key : String) : '/' ∉ (escape key).toList := by
  rw [toList_escape, List.mem_flatMap]
  rintro ⟨c, -, hc⟩
  unfold escapeChar at hc
  split at hc
  · simp at hc
  split at hc
  · simp at hc
  · rename_i hslash
    exact hslash (List.mem_singleton.mp hc).symm

theorem intercalate_cons (x : Char) (l : List Char) (ls : List (List Char)) :
    [x].intercalate (l :: ls) = l ++ ls.flatMap (x :: ·) := by
  induction ls generalizing l with
  | nil => simp
  | cons l' ls ih => rw [List.intercalate_cons_cons, ih]; simp

theorem toList_pointerTo (path : List String) :
    (pointerTo path).toList = path.flatMap fun key => '/' :: (escape key).toList := by
  unfold pointerTo
  induction path with
  | nil => rfl
  | cons key path ih =>
    rw [List.map_cons, String.join_cons, String.toList_append, ih, List.flatMap_cons,
      String.toList_append]
    rfl

theorem decodePointer_pointerTo (path : List String) : decodePointer (pointerTo path) = path := by
  have hchars : (pointerTo path).toList =
      ['/'].intercalate ([] :: path.map fun key => (escape key).toList) := by
    rw [toList_pointerTo, intercalate_cons, List.nil_append, List.flatMap_map]
  have hslash : ∀ l ∈ [] :: path.map fun key => (escape key).toList, '/' ∉ l := by
    intro l hl
    rcases List.mem_cons.mp hl with rfl | hl
    · exact List.not_mem_nil
    · obtain ⟨key, -, rfl⟩ := List.mem_map.mp hl
      exact slash_notMem_escape key
  unfold decodePointer
  rw [hchars, List.splitOn_intercalate '/' hslash (List.cons_ne_nil _ _), List.drop_one,
    List.tail_cons, List.map_map]
  have hkey : ∀ key : String, String.ofList (unescape (escape key).toList) = key := by
    intro key
    rw [toList_escape, unescape_escape, String.ofList_toList]
  simp [Function.comp_def, hkey]

/-! ## The keys of both -/

theorem mem_dedup {key : String} {keys : List String} : key ∈ dedup keys ↔ key ∈ keys := by
  induction keys using dedup.induct with
  | case1 => rfl
  | case2 => rfl
  | case3 next keys ih => simp [dedup, ih]
  | case4 first next keys hne ih => simp [dedup, hne, ih]

theorem dedup_lt {keys : List String} (h : keys.Pairwise (· ≤ ·)) :
    (dedup keys).Pairwise (· < ·) := by
  induction keys using dedup.induct with
  | case1 => exact List.Pairwise.nil
  | case2 => exact List.pairwise_singleton _ _
  | case3 next keys ih =>
    rw [dedup, if_pos rfl]
    exact ih (List.pairwise_cons.mp h).2
  | case4 first next keys hne ih =>
    rw [dedup, if_neg hne]
    obtain ⟨hfirst, hrest⟩ := List.pairwise_cons.mp h
    refine List.pairwise_cons.mpr ⟨?_, ih hrest⟩
    intro key hkey
    have hlt : first < next := lt_of_le_of_ne (hfirst next (by simp)) hne
    rcases List.mem_cons.mp (mem_dedup.mp hkey) with rfl | hkey
    · exact hlt
    · exact hlt.trans_le ((List.pairwise_cons.mp hrest).1 key hkey)

theorem mem_mergedKeys {key : String} {left right : List (String × Value)} :
    key ∈ mergedKeys left right ↔ (left.lookup key).isSome ∨ (right.lookup key).isSome := by
  have hkeys : ∀ fields : List (String × Value),
      key ∈ fields.map Prod.fst ↔ (fields.lookup key).isSome := by
    intro fields
    rw [← not_iff_not, Bool.not_eq_true, Option.isSome_eq_false_iff, Option.isNone_iff_eq_none,
      List.lookup_eq_none_iff]
    simp only [List.mem_map, not_exists, not_and, bne_iff_ne, ne_eq]
    exact ⟨fun h field hfield heq => h field hfield heq.symm,
      fun h field hfield heq => h field hfield heq.symm⟩
  unfold mergedKeys
  rw [mem_dedup, List.mem_mergeSort, List.mem_append, hkeys, hkeys]

theorem mergedKeys_nodup (left right : List (String × Value)) : (mergedKeys left right).Nodup := by
  have hsorted : ((left.map Prod.fst ++ right.map Prod.fst).mergeSort fun a b => a ≤ b).Pairwise
      (· ≤ ·) := by
    simpa using @List.pairwise_mergeSort String (fun a b => a ≤ b)
      (by simpa using fun a b c => le_trans) (by simpa using le_total) _
  exact (dedup_lt hsorted).imp fun h => h.ne

/-! ## The locations of the changes -/

/-- The locations where the walk ends, with what it lists there. -/
def changedAt (before after : Option Value) : List (List String × String) :=
  if before = after then []
  else match before, after with
    | some (.object left), some (.object right) =>
      (mergedKeys left right).flatMap fun key =>
        (changedAt (left.lookup key) (right.lookup key)).map fun c => (key :: c.1, c.2)
    | none, some _ => [([], "add")]
    | some _, none => [([], "remove")]
    | _, _ => [([], "replace")]
termination_by sizeOf before
decreasing_by exact sizeOf_lookup left key

/-- What is listed where the walk ends. -/
def kindOf : Option Value → Option Value → String
  | none, some _ => "add"
  | some _, none => "remove"
  | _, _ => "replace"

theorem changedAt_self (v : Option Value) : changedAt v v = [] := by
  rw [changedAt.eq_def, if_pos rfl]

theorem changedAt_leaf {before after : Option Value} (hne : before ≠ after)
    (h : ¬ (Value.isObject before = true ∧ Value.isObject after = true)) :
    changedAt before after = [([], kindOf before after)] := by
  rw [changedAt.eq_def, if_neg hne]
  cases before with
  | none =>
    cases after with
    | none => exact absurd rfl hne
    | some after => rfl
  | some before =>
    cases after with
    | none => cases before <;> rfl
    | some after =>
      cases before <;> cases after <;> first | rfl | exact absurd ⟨rfl, rfl⟩ h

theorem changedAt_objects {left right : List (String × Value)} (hne : left ≠ right) :
    changedAt (some (.object left)) (some (.object right)) =
      (mergedKeys left right).flatMap fun key =>
        (changedAt (left.lookup key) (right.lookup key)).map fun c => (key :: c.1, c.2) := by
  rw [changedAt, if_neg (by simpa using hne)]

theorem collectChanges_leaf {before after : Option Value} (pointer : String) (hne : before ≠ after)
    (h : ¬ (Value.isObject before = true ∧ Value.isObject after = true)) :
    collectChanges pointer before after = [change pointer (kindOf before after)] := by
  rw [collectChanges.eq_def, if_neg hne]
  cases before with
  | none =>
    cases after with
    | none => exact absurd rfl hne
    | some after => rfl
  | some before =>
    cases after with
    | none => cases before <;> rfl
    | some after =>
      cases before <;> cases after <;> first | rfl | exact absurd ⟨rfl, rfl⟩ h

theorem objects_cases (before after : Option Value) :
    (∃ left right, before = some (.object left) ∧ after = some (.object right)) ∨
      ¬ (Value.isObject before = true ∧ Value.isObject after = true) := by
  by_cases h : Value.isObject before = true ∧ Value.isObject after = true
  · obtain ⟨left, hleft⟩ := Value.eq_object_of_isObject h.1
    obtain ⟨right, hright⟩ := Value.eq_object_of_isObject h.2
    exact .inl ⟨left, right, hleft, hright⟩
  · exact .inr h

theorem pointerTo_cons (key : String) (path : List String) :
    pointerTo (key :: path) = "/" ++ escape key ++ pointerTo path := by
  unfold pointerTo
  rw [List.map_cons, String.join_cons]

/-- The walk lists the pointers to these locations. -/
theorem collectChanges_eq (pointer : String) (before after : Option Value) :
    collectChanges pointer before after =
      (changedAt before after).map fun c => change (pointer ++ pointerTo c.1) c.2 := by
  have hroot : pointer ++ pointerTo [] = pointer := String.append_empty
  by_cases hne : before = after
  · subst hne
    rw [collectChanges.eq_def, if_pos rfl, changedAt_self]
    rfl
  rcases objects_cases before after with ⟨left, right, rfl, rfl⟩ | hleaf
  · rw [collectChanges, if_neg hne, changedAt, if_neg hne, List.map_flatMap]
    congr 1
    funext key
    rw [collectChanges_eq _ (left.lookup key) (right.lookup key)]
    simp [Function.comp_def, pointerTo_cons, String.append_assoc]
  · rw [collectChanges_leaf pointer hne hleaf, changedAt_leaf hne hleaf, List.map_singleton, hroot]
termination_by sizeOf before
decreasing_by
  subst_vars
  exact sizeOf_lookup left key

/-- A listed location below two objects starts with a key of theirs. -/
theorem mem_changedAt_objects {left right : List (String × Value)} (hne : left ≠ right)
    {c : List String × String} :
    c ∈ changedAt (some (.object left)) (some (.object right)) ↔
      ∃ key path, c.1 = key :: path ∧
        (path, c.2) ∈ changedAt (left.lookup key) (right.lookup key) := by
  obtain ⟨path, kind⟩ := c
  rw [changedAt_objects hne, List.mem_flatMap]
  constructor
  · rintro ⟨key, -, hc⟩
    obtain ⟨d, hd, heq⟩ := List.mem_map.mp hc
    obtain ⟨rfl, rfl⟩ := Prod.mk.inj heq
    exact ⟨key, d.1, rfl, hd⟩
  · rintro ⟨key, path, rfl, hc⟩
    refine ⟨key, ?_, List.mem_map.mpr ⟨_, hc, rfl⟩⟩
    rw [mem_mergedKeys]
    by_contra hnone
    simp only [not_or, Bool.not_eq_true, Option.isSome_eq_false_iff, Option.isNone_iff_eq_none]
      at hnone
    rw [hnone.1, hnone.2, changedAt_self] at hc
    exact absurd hc List.not_mem_nil

/-! ## The list is exact -/

/-- The keys of every object in a value that may be absent are in order. -/
def SortedAt (v : Option Value) : Prop := ∀ x, v = some x → x.Sorted

theorem SortedAt.lookup {fields : List (String × Value)} (h : SortedAt (some (.object fields)))
    (key : String) : SortedAt (fields.lookup key) :=
  fun _ hx => (h _ rfl).lookup hx

/-- Two different objects differ at a key. -/
theorem exists_key_ne {left right : List (String × Value)} (hleft : SortedAt (some (.object left)))
    (hright : SortedAt (some (.object right))) (hne : left ≠ right) :
    ∃ key, left.lookup key ≠ right.lookup key := by
  by_contra h
  apply hne
  apply Value.object_ext (hleft _ rfl) (hright _ rfl)
  intro key
  by_contra hkey
  exact h ⟨key, hkey⟩

theorem changedAt_eq_nil {before after : Option Value} (hbefore : SortedAt before)
    (hafter : SortedAt after) : changedAt before after = [] ↔ before = after := by
  refine ⟨?_, by rintro rfl; exact changedAt_self _⟩
  intro hnil
  induction before, after using changedAt.induct with
  | case1 v => rfl
  | case2 left right hne ih =>
    obtain ⟨key, hkey⟩ := exists_key_ne hbefore hafter (by simpa using hne)
    apply absurd (ih key (hbefore.lookup key) (hafter.lookup key) ?_) hkey
    by_contra hchanged
    obtain ⟨c, hc⟩ := List.exists_mem_of_ne_nil _ hchanged
    have hmem : (key :: c.1, c.2) ∈ changedAt (some (.object left)) (some (.object right)) :=
      (mem_changedAt_objects (by simpa using hne)).mpr ⟨key, c.1, rfl, hc⟩
    rw [hnil] at hmem
    exact List.not_mem_nil hmem
  | case3 v hne => simp [changedAt] at hnil
  | case4 v hne => simp [changedAt] at hnil
  | case5 before after hne => simp [changedAt, hne] at hnil

/-- The change that is listed at a location is the one there. -/
structure ChangedTo (before after : Option Value) (kind : String) : Prop where
  differ : before ≠ after
  ends : ¬ (Value.isObject before = true ∧ Value.isObject after = true)
  kind : kind = kindOf before after

theorem changedTo_of_mem {before after : Option Value} {c : List String × String}
    (h : c ∈ changedAt before after) :
    ChangedTo (Value.resolve c.1 before) (Value.resolve c.1 after) c.2 := by
  obtain ⟨path, kind⟩ := c
  induction path generalizing before after with
  | nil =>
    have hne : before ≠ after := by
      rintro rfl
      rw [changedAt_self] at h
      exact List.not_mem_nil h
    rcases objects_cases before after with ⟨left, right, rfl, rfl⟩ | hleaf
    · obtain ⟨key, path, heq, -⟩ := (mem_changedAt_objects (by simpa using hne)).mp h
      cases heq
    · rw [changedAt_leaf hne hleaf, List.mem_singleton] at h
      exact ⟨hne, hleaf, (Prod.mk.inj h).2⟩
  | cons key path ih =>
    have hne : before ≠ after := by
      rintro rfl
      rw [changedAt_self] at h
      exact List.not_mem_nil h
    rcases objects_cases before after with ⟨left, right, rfl, rfl⟩ | hleaf
    · obtain ⟨key', path', heq, hc⟩ := (mem_changedAt_objects (by simpa using hne)).mp h
      obtain ⟨rfl, rfl⟩ := List.cons.inj heq
      exact ih hc
    · rw [changedAt_leaf hne hleaf, List.mem_singleton] at h
      cases (Prod.mk.inj h).1

/-- No listed location leads through another. -/
theorem changedAt_apart (before after : Option Value) :
    (changedAt before after).Pairwise fun c d => ¬ c.1 <+: d.1 ∧ ¬ d.1 <+: c.1 := by
  by_cases hne : before = after
  · subst hne
    rw [changedAt_self]
    exact List.Pairwise.nil
  rcases objects_cases before after with ⟨left, right, rfl, rfl⟩ | hleaf
  · rw [changedAt_objects (by simpa using hne), List.pairwise_flatMap]
    constructor
    · intro key _
      rw [List.pairwise_map]
      refine (changedAt_apart (left.lookup key) (right.lookup key)).imp ?_
      intro c d h
      simpa [List.cons_prefix_cons] using h
    · refine (mergedKeys_nodup left right).imp ?_
      intro key key' hkey c hc d hd
      obtain ⟨c, -, rfl⟩ := List.mem_map.mp hc
      obtain ⟨d, -, rfl⟩ := List.mem_map.mp hd
      simp [List.cons_prefix_cons, hkey, Ne.symm hkey]
  · rw [changedAt_leaf hne hleaf]
    exact List.pairwise_singleton _ _
termination_by sizeOf before
decreasing_by
  subst_vars
  exact sizeOf_lookup left key

/-- Where the two differ, a location above is listed, or they are objects with one listed below. -/
theorem changedAt_covers {before after : Option Value} (hbefore : SortedAt before)
    (hafter : SortedAt after) {path : List String}
    (h : Value.resolve path before ≠ Value.resolve path after) :
    (∃ c ∈ changedAt before after, c.1 <+: path) ∨
      Value.isObject (Value.resolve path before) = true ∧
        Value.isObject (Value.resolve path after) = true ∧
        ∃ c ∈ changedAt before after, path <+: c.1 := by
  induction path generalizing before after with
  | nil =>
    rcases objects_cases before after with ⟨left, right, rfl, rfl⟩ | hleaf
    · obtain ⟨c, hc⟩ := List.exists_mem_of_ne_nil _ fun hnil =>
        h ((changedAt_eq_nil hbefore hafter).mp hnil)
      exact .inr ⟨rfl, rfl, c, hc, List.nil_prefix⟩
    · have hlist := changedAt_leaf h hleaf
      exact .inl ⟨_, hlist ▸ List.mem_singleton_self _, List.nil_prefix⟩
  | cons token path ih =>
    have hne : before ≠ after := by
      rintro rfl
      exact h rfl
    rcases objects_cases before after with ⟨left, right, rfl, rfl⟩ | hleaf
    · have hne' : left ≠ right := by simpa using hne
      rcases ih (hbefore.lookup token) (hafter.lookup token) h with
        ⟨c, hc, hpath⟩ | ⟨hbefore', hafter', c, hc, hpath⟩
      · exact .inl ⟨(token :: c.1, c.2), (mem_changedAt_objects hne').mpr ⟨token, c.1, rfl, hc⟩,
          (List.cons_prefix_cons).mpr ⟨rfl, hpath⟩⟩
      · exact .inr ⟨hbefore', hafter', (token :: c.1, c.2),
          (mem_changedAt_objects hne').mpr ⟨token, c.1, rfl, hc⟩,
          (List.cons_prefix_cons).mpr ⟨rfl, hpath⟩⟩
    · rw [changedAt_leaf hne hleaf]
      exact .inl ⟨_, List.mem_singleton_self _, List.nil_prefix⟩

/-! ## The listed pointers -/

/-- The pointers of a list of changes, as `classify_risk` reads them. -/
def pointersOf (changes : List Value) : List String :=
  changes.filterMap fun change => (change.get "pointer").bind Value.asStr

theorem pointersOf_collectChanges (before after : Option Value) :
    pointersOf (collectChanges "" before after) =
      (changedAt before after).map fun c => pointerTo c.1 := by
  have hpointer : ∀ pointer kind : String,
      ((change pointer kind).get "pointer").bind Value.asStr = some pointer := fun _ _ => rfl
  unfold pointersOf
  rw [collectChanges_eq, List.filterMap_map]
  simp only [Function.comp_def, hpointer, String.empty_append]
  exact congrFun List.filterMap_eq_map' _

theorem sortedAt_json (v : Option Json) : SortedAt (v.map Subtype.val) := by
  intro x hx
  obtain ⟨json, -, rfl⟩ := Option.map_eq_some_iff.mp hx
  exact json.2

/-- The two trees differ at a location. Two objects differ in what they contain, not themselves. -/
structure DiffersAt (before after : Option Value) (path : List String) : Prop where
  differ : Value.resolve path before ≠ Value.resolve path after
  ends : ¬ (Value.isObject (Value.resolve path before) = true ∧
    Value.isObject (Value.resolve path after) = true)

/-- Each difference is at or below exactly one listed location. -/
theorem DiffersAt.listed {before after : Option Value} (hbefore : SortedAt before)
    (hafter : SortedAt after) {path : List String} (h : DiffersAt before after path) :
    ∃! p, p ∈ pointersOf (collectChanges "" before after) ∧ decodePointer p <+: path := by
  rw [pointersOf_collectChanges]
  rcases changedAt_covers hbefore hafter h.differ with ⟨c, hc, hpath⟩ | ⟨hb, ha, -⟩
  · refine ⟨pointerTo c.1, ⟨List.mem_map_of_mem hc, ?_⟩, ?_⟩
    · rwa [decodePointer_pointerTo]
    · rintro p ⟨hp, hpre⟩
      obtain ⟨d, hd, rfl⟩ := List.mem_map.mp hp
      rw [decodePointer_pointerTo] at hpre
      by_contra hne
      have hcd : c ≠ d := by
        rintro rfl
        exact hne rfl
      have hsymm : Std.Symm fun c d : List String × String =>
          ¬ c.1 <+: d.1 ∧ ¬ d.1 <+: c.1 := ⟨fun _ _ h => ⟨h.2, h.1⟩⟩
      have hapart := (changedAt_apart before after).forall hc hd hcd
      rcases List.prefix_or_prefix_of_prefix hpath hpre with hle | hle
      · exact hapart.1 hle
      · exact hapart.2 hle
  · exact absurd ⟨hb, ha⟩ h.ends

/-- The list is empty just when the two are equal. Its pointers lead through none of the others, each
to a change of the listed kind, and every difference is at or below exactly one of them. Where the two
are merely unequal, one is above or below. -/
theorem changes_exact (before after : Option Json) :
    let b := before.map Subtype.val
    let a := after.map Subtype.val
    let changes := collectChanges "" b a
    (changes = [] ↔ before = after) ∧
    ((pointersOf changes).Pairwise fun p q =>
      ¬ decodePointer p <+: decodePointer q ∧ ¬ decodePointer q <+: decodePointer p) ∧
    (∀ c ∈ changes, ∃ pointer kind, c = change pointer kind ∧
      ChangedTo (Value.resolve (decodePointer pointer) b)
        (Value.resolve (decodePointer pointer) a) kind) ∧
    (∀ path, DiffersAt b a path →
      ∃! p, p ∈ pointersOf changes ∧ decodePointer p <+: path) ∧
    ∀ path, Value.resolve path b ≠ Value.resolve path a →
      ∃ p ∈ pointersOf changes, decodePointer p <+: path ∨ path <+: decodePointer p := by
  intro b a changes
  have hb : SortedAt b := sortedAt_json before
  have ha : SortedAt a := sortedAt_json after
  refine ⟨?_, ?_, ?_, fun path h => h.listed hb ha, ?_⟩
  · have hequal : b = a ↔ before = after :=
      (Option.map_injective Subtype.val_injective).eq_iff
    rw [← hequal, ← changedAt_eq_nil hb ha]
    simp only [changes, collectChanges_eq, List.map_eq_nil_iff]
  · rw [pointersOf_collectChanges, List.pairwise_map]
    simp only [decodePointer_pointerTo]
    exact changedAt_apart b a
  · intro c hc
    rw [show changes = _ from collectChanges_eq "" b a] at hc
    obtain ⟨d, hd, rfl⟩ := List.mem_map.mp hc
    refine ⟨_, _, rfl, ?_⟩
    rw [String.empty_append, decodePointer_pointerTo]
    exact changedTo_of_mem hd
  · intro path hne
    rw [pointersOf_collectChanges]
    rcases changedAt_covers hb ha hne with ⟨c, hc, hpath⟩ | ⟨-, -, c, hc, hpath⟩
    · exact ⟨_, List.mem_map_of_mem hc, .inl (by rwa [decodePointer_pointerTo])⟩
    · exact ⟨_, List.mem_map_of_mem hc, .inr (by rwa [decodePointer_pointerTo])⟩

end Starry.ConfigStore
