import LiveLink.Proofs.FileTables
import LiveLink.Proofs.SettingValues
import Mathlib

/-!
# Settings come from layers

Each setting is the value of its variable, else what the file has for it, else the standard
value, whatever becomes of the other settings. A variable changes one place of the tree
(`laid`), so what a tree has for a setting after all variables comes from the one that names
it, or from the tree before them (`heldIn_layVariables`).

There is one exception. A section may be written as an array, and a variable that goes into it
by name leaves nothing of the array. Variables that go into a section by a number are not
considered.

What the tree of a file has for a setting is what stands in the file, unless a key of the file is
a path (`heldIn_layFile`).
-/

namespace LiveLink.Proofs

open LiveLink Config

/-! ## Laying values over a tree -/

section Laying

variable {name other : String} {f : Node → Node} {n : Node}

/-- A member that is changed is changed from what it was, or from nothing. What was no table becomes
one. -/
theorem section_changeMember_self (name : String) (f : Node → Node) (n : Node) :
    (n.changeMember name f).section? name = some (f ((n.section? name).getD .absent)) := by
  cases n with
  | table source members => exact Table.get?_insert_self name _ members
  | absent => exact if_pos rfl
  | scalar source v => exact if_pos rfl
  | array source items => exact if_pos rfl

theorem section_changeMember_ne (h : name ≠ other) (f : Node → Node) (n : Node) :
    (n.changeMember name f).section? other = n.section? other := by
  cases n with
  | table source members => exact Table.get?_insert_ne h _ members
  | absent => exact if_neg h
  | scalar source v => exact if_neg h
  | array source items => exact if_neg h

theorem changeMember_table (name : String) (f : Node → Node) (n : Node) :
    ∃ source members, n.changeMember name f = .table source members := by
  cases n <;> exact ⟨_, _, rfl⟩

/-- A key leads to a member of the root first. -/
theorem stepsOf_cons (key : String) : ∃ name steps, stepsOf key = .key name :: steps := by
  -- a key that cannot be read as a path is a single name
  have hcases {path : Option (List Step)}
      (hpath : ∀ steps, path = some steps → ∃ name rest, steps = .key name :: rest) :
      ∃ name rest, path.getD [.key key] = .key name :: rest := by
    cases path with
    | none => exact ⟨key, [], rfl⟩
    | some steps => exact hpath steps rfl
  refine hcases fun steps hsteps => ?_
  simp only [Option.bind_eq_bind, Option.bind_eq_some_iff] at hsteps
  obtain ⟨⟨name, cs⟩, -, rest, -, h⟩ := hsteps
  exact ⟨name, rest, (Option.some.inj h).symm⟩

end Laying

/-! ## Variables -/

/-- The steps to the place that a variable gives a value to, if it counts. -/
def stepsTo (v : String × String) : Option (List Step) := (variableKey? v.1).map stepsOf

/-- A tree with the value of a variable. -/
def withVariable (root : Node) (v : String × String) : Node :=
  match stepsTo v with
  | some steps => root.change (Node.layOver (.scalar .environment (ofVariable v.2))) steps
  | none => root

theorem layVariables_nil (root : Node) : layVariables root [] = root := rfl

theorem layVariables_cons (root : Node) (v : String × String) (vars : List (String × String)) :
    layVariables root (v :: vars) = layVariables (withVariable root v) vars := by
  unfold layVariables
  rw [List.foldl_cons]
  congr 1
  unfold withVariable stepsTo
  cases variableKey? v.1 <;> rfl

/-- Whether a variable names a setting. -/
def namedBy (k : Setting) (v : String × String) : Bool := stepsTo v = some k.path

/-- The value of the variable that names a setting. -/
def fromVariable (k : Setting) (vars : List (String × String)) : Option Scalar :=
  (vars.find? (namedBy k)).map fun v => ofVariable v.2

/-- Whether a variable goes into a section, to a setting or to a name that nobody asks for. -/
def enters (sec : String) (v : String × String) : Bool :=
  match stepsTo v with
  | some (.key name :: .key _ :: _) => name = sec
  | _ => false

/-- Whether a variable goes to an item of a section by its number. -/
def entersByNumber (sec : String) (v : String × String) : Bool :=
  match stepsTo v with
  | some (.key name :: .index _ :: _) => name = sec
  | _ => false

/-- Variables that do not meet: each setting is named at most once, and every other path leads
elsewhere. -/
structure Apart (vars : List (String × String)) : Prop where
  once : ∀ k : Setting, (vars.filter (namedBy k)).length ≤ 1
  elsewhere : ∀ v ∈ vars, ∀ steps ∈ stepsTo v, ∀ k : Setting,
    steps = k.path ∨ ¬steps <+: k.path ∧ ¬k.path <+: steps

/-- Variables that do not meet, none of which goes into a section by a number. -/
structure ByName (vars : List (String × String)) : Prop extends Apart vars where
  unnumbered : ∀ v ∈ vars, ∀ k : Setting, entersByNumber k.sectionName v = false

instance (vars : List (String × String)) : Decidable (Apart vars) :=
  decidable_of_iff (_ ∧ _) ⟨fun h => ⟨h.1, h.2⟩, fun h => ⟨h.once, h.elsewhere⟩⟩

instance (vars : List (String × String)) : Decidable (ByName vars) :=
  decidable_of_iff (_ ∧ _) ⟨fun h => ⟨h.1, h.2⟩, fun h => ⟨h.toApart, h.unnumbered⟩⟩

section Meeting

variable {v : String × String} {vars : List (String × String)} {k : Setting}

/-- Fewer variables do not meet either. -/
theorem ByName.tail (h : ByName (v :: vars)) : ByName vars where
  once k := by
    have hall := h.once k
    rw [List.filter_cons] at hall
    split at hall
    · exact Nat.le_of_succ_le hall
    · exact hall
  elsewhere u hu := h.elsewhere u (List.mem_cons_of_mem v hu)
  unnumbered u hu := h.unnumbered u (List.mem_cons_of_mem v hu)

/-- The variable that names a setting is the only one. -/
theorem Apart.filter_eq (h : Apart vars) (hv : v ∈ vars) (hk : namedBy k v = true) :
    vars.filter (namedBy k) = [v] := by
  have hmem : v ∈ vars.filter (namedBy k) := List.mem_filter.mpr ⟨hv, hk⟩
  have hone := h.once k
  -- the list has the variable in it, and no more than one element
  cases hall : vars.filter (namedBy k) with
  | nil =>
      rw [hall] at hmem
      exact absurd hmem List.not_mem_nil
  | cons u rest =>
      rw [hall, List.length_cons] at hone
      obtain rfl := List.length_eq_zero_iff.mp (Nat.le_zero.mp (Nat.le_of_succ_le_succ hone))
      rw [hall] at hmem
      rw [List.mem_singleton.mp hmem]

theorem fromVariable_eq (k : Setting) (vars : List (String × String)) :
    fromVariable k vars = (vars.filter (namedBy k)).head?.map fun v => ofVariable v.2 := by
  rw [fromVariable, List.head?_filter]

theorem Apart.fromVariable (h : Apart vars) (hv : v ∈ vars) (hk : namedBy k v = true) :
    fromVariable k vars = some (ofVariable v.2) := by
  rw [fromVariable_eq, h.filter_eq hv hk]
  rfl

/-- Who names a setting first is the only one. -/
theorem Apart.not_again (h : Apart (v :: vars)) (hk : namedBy k v = true) :
    Proofs.fromVariable k vars = none := by
  have hall := h.filter_eq List.mem_cons_self hk
  rw [List.filter_cons, if_pos hk] at hall
  rw [fromVariable_eq, List.tail_eq_of_cons_eq hall]
  rfl

/-- A path that starts in the section of a setting goes on to a member of the section. -/
theorem ByName.into_member (h : ByName (v :: vars)) {rest : List Step}
    (hsteps : stepsTo v = some (.key k.sectionName :: rest)) :
    ∃ field deeper, rest = .key field :: deeper := by
  cases rest with
  | nil =>
      -- the section itself is a part of the way to the setting, so it may not be named
      have hprefix : [Step.key k.sectionName] <+: k.path := ⟨[.key k.name], rfl⟩
      obtain hpath | ⟨hnot, -⟩ := h.elsewhere v List.mem_cons_self _ hsteps k
      · exact absurd hpath (by simp [Setting.path])
      · exact absurd hprefix hnot
  | cons step deeper =>
      cases step with
      | key field => exact ⟨field, deeper, rfl⟩
      | index i =>
          have hnumber : entersByNumber k.sectionName v = true := by simp [entersByNumber, hsteps]
          exact absurd hnumber (by simp [h.unnumbered v List.mem_cons_self k])

/-- A path that leads to a setting ends there. -/
theorem Apart.ends_there (h : Apart (v :: vars)) {deeper : List Step}
    (hsteps : stepsTo v = some (.key k.sectionName :: .key k.name :: deeper)) : deeper = [] := by
  have hprefix : k.path <+: .key k.sectionName :: .key k.name :: deeper := ⟨deeper, rfl⟩
  obtain hpath | ⟨-, hnot⟩ := h.elsewhere v List.mem_cons_self _ hsteps k
  · simpa [Setting.path] using hpath
  · exact absurd hprefix hnot

end Meeting

/-- Whether a section is an array. -/
def isArray : Option Node → Bool
  | some (.array ..) => true
  | _ => false

/-- What a tree and variables together have for a setting. An array has it only as long as no
variable goes into the section. -/
def given (root : Node) (vars : List (String × String)) (k : Setting) : Offer :=
  match fromVariable k vars with
  | some v => .single v
  | none =>
    if isArray (root.section? k.sectionName) && vars.any (enters k.sectionName) then .nothing
    else heldIn root k

section Environment

variable {root : Node} {v : String × String} {vars : List (String × String)} {k : Setting}

/-- What one variable does to a section, and to what it has for a setting. -/
inductive Laid (root : Node) (v : String × String) (k : Setting) : Prop where
  /-- It leads elsewhere. -/
  | past (hv : enters k.sectionName v = false)
      (h : (withVariable root v).section? k.sectionName = root.section? k.sectionName)
  /-- It names another member of the section. -/
  | neutral (hv : enters k.sectionName v = true) (hk : namedBy k v = false)
      (harray : isArray ((withVariable root v).section? k.sectionName) = false)
      (h : heldIn (withVariable root v) k
        = if isArray (root.section? k.sectionName) then .nothing else heldIn root k)
  /-- It names the setting. -/
  | named (hk : namedBy k v = true)
      (harray : isArray ((withVariable root v).section? k.sectionName) = false)
      (h : heldIn (withVariable root v) k = .single (ofVariable v.2))

/-- A section that is no array has a setting under its name. -/
theorem held_of_not_isArray {k : Setting} {n : Node} (hn : isArray (some n) = false) :
    held k (some n) = (n.section? k.name).elim .nothing offerOf := by
  cases n with
  | array source items => exact absurd hn (by simp [isArray])
  | _ => rfl

/-- A section into which a variable goes by name is no array afterwards. -/
theorem not_isArray_changeMember (name : String) (f : Node → Node) (n : Node) :
    isArray (some (n.changeMember name f)) = false := by
  cases n <;> rfl

/-- A variable for a member of a section changes this member. -/
theorem section_withVariable {sec field : String} {deeper : List Step}
    (hsteps : stepsTo v = some (.key sec :: .key field :: deeper)) (root : Node) :
    (withVariable root v).section? sec
      = some (((root.section? sec).getD .absent).changeMember field
        (Node.change (Node.layOver (.scalar .environment (ofVariable v.2))) deeper)) := by
  rw [withVariable, hsteps]
  exact section_changeMember_self sec _ root

theorem section_withVariable_ne {name sec : String} {rest : List Step}
    (hsteps : stepsTo v = some (.key name :: rest)) (hname : name ≠ sec) (root : Node) :
    (withVariable root v).section? sec = root.section? sec := by
  rw [withVariable, hsteps]
  exact section_changeMember_ne hname _ root

/-- **A variable leads past a section, to a member that is no setting, or to the setting.** -/
theorem laid (h : ByName (v :: vars)) (root : Node) (k : Setting) : Laid root v k := by
  cases hsteps : stepsTo v with
  | none =>
      refine .past (by simp [enters, hsteps]) ?_
      simp [withVariable, hsteps]
  | some steps =>
      obtain ⟨key, -, hkey⟩ := Option.map_eq_some_iff.mp hsteps
      obtain ⟨name, rest, hcons⟩ := stepsOf_cons key
      obtain rfl : steps = .key name :: rest := hkey.symm.trans hcons
      -- only a path that starts in the section can reach the setting
      by_cases hname : name = k.sectionName
      · subst hname
        obtain ⟨field, deeper, rfl⟩ := h.into_member hsteps
        have hsection := section_withVariable hsteps root
        -- whatever the section was before, it is a table now
        have htable := not_isArray_changeMember field
          (Node.change (Node.layOver (.scalar .environment (ofVariable v.2))) deeper)
          ((root.section? k.sectionName).getD .absent)
        have harray : isArray ((withVariable root v).section? k.sectionName) = false :=
          hsection ▸ htable
        have hheld : heldIn (withVariable root v) k = _ :=
          (congrArg (held k) hsection).trans (held_of_not_isArray htable)
        by_cases hfield : field = k.name
        · subst hfield
          obtain rfl := h.ends_there hsteps
          refine .named (by simp [namedBy, hsteps, Setting.path]) harray ?_
          rw [hheld, section_changeMember_self]
          simp [Node.change, Node.layOver, offerOf]
        · refine .neutral (by simp [enters, hsteps])
            (by simp [namedBy, hsteps, Setting.path, hfield])
            harray ?_
          rw [hheld, section_changeMember_ne hfield, heldIn]
          cases hsec : root.section? k.sectionName with
          | none => rfl
          | some n => cases n <;> rfl
      · refine .past ?_ (section_withVariable_ne hsteps hname root)
        unfold enters
        rw [hsteps]
        cases rest with
        | nil => rfl
        | cons step rest => cases step <;> simp [hname]

theorem enters_of_named (hk : namedBy k v = true) : enters k.sectionName v = true := by
  have hsteps : stepsTo v = some k.path := of_decide_eq_true hk
  simp [enters, hsteps, Setting.path]

theorem fromVariable_cons_of_not (hk : namedBy k v = false) :
    fromVariable k (v :: vars) = fromVariable k vars := by
  rw [fromVariable, List.find?_cons_of_neg (by simp [hk])]
  rfl

theorem fromVariable_cons_of_named (hk : namedBy k v = true) :
    fromVariable k (v :: vars) = some (ofVariable v.2) := by
  rw [fromVariable, List.find?_cons_of_pos hk]
  rfl

/-- The first variable changes what is given in all only by what it does to the tree. -/
theorem given_withVariable (h : ByName (v :: vars)) (root : Node) (k : Setting) :
    given (withVariable root v) vars k = given root (v :: vars) k := by
  cases laid h root k with
  | past hv hsame =>
      have hk : namedBy k v = false := by
        cases hk : namedBy k v with
        | false => rfl
        | true => exact absurd (enters_of_named hk) (by simp [hv])
      simp only [given, heldIn, fromVariable_cons_of_not hk, hsame, List.any_cons, hv,
        Bool.false_or]
  | neutral hv hk harray hheld =>
      -- the section is no array any more, so the variables that follow take nothing away
      simp only [given, fromVariable_cons_of_not hk, harray, hheld, List.any_cons, hv,
        Bool.false_and, Bool.true_or, Bool.and_true, Bool.false_eq_true, if_false]
  | named hk harray hheld =>
      simp only [given, fromVariable_cons_of_named hk, h.not_again hk, harray, hheld,
        Bool.false_and, Bool.false_eq_true, if_false]

/-- **What a tree has for a setting under variables** is the value of the one that names it, or
what it had without them. -/
theorem heldIn_layVariables (h : ByName vars) (root : Node) (k : Setting) :
    heldIn (layVariables root vars) k = given root vars k := by
  induction vars generalizing root with
  | nil => simp [layVariables_nil, given, fromVariable]
  | cons v vars ih => rw [layVariables_cons, ih h.tail, given_withVariable h]

end Environment

/-! ## The file -/

/-- What stands in a file, which may be missing. -/
def contents (file : Option String) : List (String × Toml) := (file.bind Toml.read).getD []

/-- The tree of the values of a file. -/
def fileTree (file : Option String) : Node := layFile .empty (contents file)

/-- A file whose keys stand for themselves and are no paths. -/
def Plain (file : List (String × Toml)) : Prop := ∀ m ∈ file, stepsOf m.1 = [.key m.1]

/-- What a value of a file is to a setting. -/
def offerOfToml (v : Toml) : Offer := offerOf (ofToml v)

/-- What stands in a section of a file for a setting: at its place in an array, under its name in
a table. -/
def statedIn (k : Setting) : Option Toml → Offer
  | some (.table members) => (Table.get? k.name members).elim .nothing offerOfToml
  | some (.array items) => (items[k.place]?).elim .nothing offerOfToml
  | _ => .nothing

/-- What stands in a file for a setting. -/
def stated (file : List (String × Toml)) (k : Setting) : Offer :=
  statedIn k (Table.get? k.sectionName file)

/-- A key that could stand in a file without quotes is no path. -/
theorem stepsOf_bare {key : String} (h : key.toList.all isNameChar = true) :
    stepsOf key = [.key key] := by
  have hall : key.toList.takeWhile isNameChar = key.toList := List.takeWhile_eq_self_iff.mpr
    (List.all_eq_true.mp h)
  unfold stepsOf readName
  dsimp only
  rw [hall]
  by_cases hempty : key.toList.isEmpty
  · rw [if_pos hempty]
    rfl
  · rw [if_neg hempty, List.drop_length, String.ofList_toList]
    rfl

theorem plain_of_bare {file : List (String × Toml)}
    (h : ∀ m ∈ file, m.1.toList.all isNameChar = true) : Plain file :=
  fun m hm => stepsOf_bare (h m hm)

theorem contents_collated (file : Option String) : Collated (.table (contents file)) := by
  unfold contents
  cases hread : file.bind Toml.read with
  | none => exact CollatedMembers.nil.close
  | some members =>
      obtain ⟨s, -, hs⟩ := Option.bind_eq_some_iff.mp hread
      exact read_collated hs

section File

variable {file : List (String × Toml)} {members : List (String × Node)}

theorem keys_ofMembers (file : List (String × Toml)) :
    Table.keys (ofMembers file) = Table.keys file := by
  induction file with
  | nil => rfl
  | cons m file ih => exact congrArg (m.1 :: ·) ih

theorem ordered_ofMembers (h : Ordered file) : Ordered (ofMembers file) := by
  unfold Ordered
  rwa [keys_ofMembers]

/-- Values are converted one by one, under the keys they had. -/
theorem get?_ofMembers (name : String) (file : List (String × Toml)) :
    Table.get? name (ofMembers file) = (Table.get? name file).map ofToml := by
  induction file with
  | nil => rfl
  | cons m file ih =>
      unfold ofMembers Table.get?
      split
      · rfl
      · exact ih

theorem getElem?_ofItems (items : List Toml) (i : Nat) :
    (ofItems items)[i]? = (items[i]?).map ofToml := by
  induction items generalizing i with
  | nil => rfl
  | cons v items ih =>
      cases i with
      | zero => rfl
      | succ i => exact ih i

/-- Members in order are laid over a table each by itself. -/
theorem section_layMembersOver (h : Ordered members) (root : Node) (name : String) :
    (Node.layMembersOver members root).section? name =
      match Table.get? name members with
      | some v => some (Node.layOver v ((root.section? name).getD .absent))
      | none => root.section? name := by
  induction members generalizing root with
  | nil => rfl
  | cons m rest ih =>
      obtain ⟨key, v⟩ := m
      obtain ⟨hmin, hrest⟩ := List.pairwise_cons.mp h
      rw [Node.layMembersOver, ih hrest, Table.get?]
      by_cases hkey : key = name
      · subst hkey
        -- keys increase, so the key does not come again
        have hnone : Table.get? key rest = none := by
          refine Option.not_isSome_iff_eq_none.mp fun hsome => ?_
          exact lt_irrefl key (hmin key (mem_keys.mpr hsome))
        rw [if_pos rfl, hnone, section_changeMember_self]
      · rw [if_neg hkey, section_changeMember_ne hkey]

/-- To lay members over a table leaves a table. -/
theorem layMembersOver_table (members known : List (String × Node)) (source : Option Source) :
    ∃ source' members', Node.layMembersOver members (.table source known)
      = .table source' members' := by
  induction members generalizing source known with
  | nil => exact ⟨source, known, rfl⟩
  | cons m rest ih =>
      obtain ⟨source', members', htable⟩ :=
        changeMember_table m.1 (Node.layOver m.2) (.table source known)
      rw [Node.layMembersOver, htable]
      exact ih members' source'

/-- A value of a file is to a setting what it is in the tree. -/
theorem offerOf_laid (v : Toml) : offerOf (Node.layOver (ofToml v) .absent) = offerOfToml v := by
  cases v with
  | table members =>
      obtain ⟨source, members', htable⟩ := layMembersOver_table (ofMembers members) [] none
      have hlaid : Node.layOver (ofToml (.table members)) .absent = .table source members' := htable
      rw [hlaid]
      rfl
  | _ => rfl

/-- A section of a file has for a setting in the tree what stands in it. -/
theorem held_laid {v : Toml} (h : Collated v) (k : Setting) :
    held k (some (Node.layOver (ofToml v) .absent)) = statedIn k (some v) := by
  cases h with
  | @table members hordered hin =>
      obtain ⟨source, members', htable⟩ := layMembersOver_table (ofMembers members) [] none
      have hlaid : Node.layOver (ofToml (.table members)) .absent = .table source members' := htable
      have hfield := section_layMembersOver (ordered_ofMembers hordered) .empty k.name
      rw [hlaid, held_of_not_isArray rfl, ← htable]
      refine (congrArg (·.elim .nothing offerOf) hfield).trans ?_
      rw [get?_ofMembers, statedIn]
      cases Table.get? k.name members with
      | none => rfl
      | some w => exact offerOf_laid w
  | @array items hin =>
      show ((ofItems items)[k.place]?).elim .nothing offerOf = _
      rw [getElem?_ofItems, statedIn]
      cases items[k.place]? <;> rfl
  | _ => rfl

/-- Without paths, to lay a file is to lay its members. -/
theorem layFile_plain (h : Plain file) (root : Node) :
    layFile root file = Node.layMembersOver (ofMembers file) root := by
  induction file generalizing root with
  | nil => rfl
  | cons m file ih =>
      obtain ⟨hm, hfile⟩ := List.forall_mem_cons.mp h
      rw [ofMembers, Node.layMembersOver, ← ih hfile]
      unfold layFile
      rw [List.foldl_cons, Node.lay, hm]
      rfl

/-- **The tree of a file without paths has for a setting what stands in the file for it.** -/
theorem heldIn_layFile (hfile : Collated (.table file)) (hplain : Plain file) (k : Setting) :
    heldIn (layFile .empty file) k = stated file k := by
  cases hfile with
  | table hordered hin =>
      rw [heldIn, layFile_plain hplain, section_layMembersOver (ordered_ofMembers hordered),
        get?_ofMembers, stated]
      -- a section that is not in the file has nothing
      cases hsec : Table.get? k.sectionName file with
      | none => rfl
      | some v => exact held_laid (hin _ ((get?_of_mem hordered).mpr hsec)) k

end File

/-! ## Loading -/

/-- How a variable for a setting is written, in small letters. -/
def Setting.spelling (k : Setting) : String := "realtime__" ++ k.sectionName ++ "__" ++ k.name

/-- A name that spells a setting, in letters of any case. -/
def Setting.SpelledBy (k : Setting) (name : String) : Prop :=
  name.toList.map lowerChar = k.spelling.toList

theorem Setting.SpelledBy.namedBy {k : Setting} {v : String × String} (h : k.SpelledBy v.1) :
    namedBy k v = true := by
  have hsteps : stepsTo v = some k.path := by
    rw [stepsTo, variableKey?, h]
    cases k <;> cbv
  exact decide_eq_true hsteps

section Loading

variable {file : Option String} {vars : List (String × String)} {s : Settings}

/-- Settings that were loaded were read from the tree of the file and the variables. -/
theorem settings_of_load (h : load file vars = .ok s) :
    (layVariables (fileTree file) vars).settings = .ok s := by
  cases file with
  | none => exact ok_of_mapError h
  | some text =>
      unfold fileTree contents
      rw [Option.bind_some]
      rw [load, Option.map_some] at h
      -- a file that cannot be read loads no settings
      cases hread : Toml.read text with
      | none =>
          rw [hread] at h
          cases h
      | some members =>
          rw [hread] at h
          exact ok_of_mapError h

theorem load_takes (h : load file vars = .ok s) (hv : ByName vars) (k : Setting) :
    k.Takes (given (fileTree file) vars k) (k.of s) := by
  rw [← heldIn_layVariables hv]
  exact settings_take (settings_of_load h) k

/-- **Settings that are loaded come from their sources, each by itself.** A setting is the value
of the variable that spells it, else what the tree of the file has for it, as long as no variable
goes into a section that is an array there, else the standard value. In a file without paths that
is what stands in the file. So whatever has the same sources for a setting gives it the same
value. -/
theorem settings_layered (h : load file vars = .ok s) (hv : ByName vars) :
    (∀ k : Setting, k.Takes (given (fileTree file) vars k) (k.of s))
      ∧ (∀ (k : Setting), ∀ v ∈ vars, k.SpelledBy v.1 →
        given (fileTree file) vars k = .single (ofVariable v.2))
      ∧ (Plain (contents file) → ∀ k, heldIn (fileTree file) k = stated (contents file) k)
      ∧ ∀ file' vars' s', load file' vars' = .ok s' → ByName vars' → ∀ k : Setting,
        given (fileTree file') vars' k = given (fileTree file) vars k → k.of s' = k.of s := by
  refine ⟨load_takes h hv, ?_, heldIn_layFile (contents_collated file), ?_⟩
  -- who spells a setting is the variable for it, since no other names it
  · intro k v hmem hspelled
    rw [given, hv.fromVariable hmem hspelled.namedBy]
  · intro file' vars' s' h' hv' k hsame
    -- one offer makes one value
    have htakes := load_takes h' hv' k
    rw [hsame] at htakes
    exact htakes.unique (load_takes h hv k)

end Loading

theorem load_of_read {text : String} {members : List (String × Toml)}
    {vars : List (String × String)} {s : Settings} (hread : Toml.read text = some members)
    (hs : (tree members vars).settings = .ok s) : load (some text) vars = .ok s := by
  rw [load, Option.map_some, hread]
  exact congrArg (Except.mapError LoadError.refused) hs

theorem load_of_tree {vars : List (String × String)} {s : Settings}
    (hs : (tree [] vars).settings = .ok s) : load none vars = .ok s :=
  congrArg (Except.mapError LoadError.refused) hs

/-- A file with two sections, and names that nobody asks for. -/
def someFile : String :=
  "extra = true\n[connection]\nurl = \"ws://x\"\nbase_delay_ms = \"250\"\n[logging]\nlevel = true\n"

/-- Variables for one setting of the file and one of another section. -/
def someVariables : List (String × String) :=
  [("Realtime__Connection__URL", "ws://y"), ("REALTIME__ADAPTERS__ALERT_LIMIT", "7"),
    ("REALTIME__CONNECTION__EXTRA", "on")]

/-- What comes of them. -/
def someSettings : Settings := ⟨⟨"ws://y", "token", 250, 30000⟩, ⟨200, 50, 7⟩, "true"⟩

theorem read_someFile : Toml.read someFile = some [("connection", .table
      [("base_delay_ms", .text "250"), ("url", .text "ws://x")]),
    ("extra", .bool true), ("logging", .table [("level", .bool true)])] := by
  cbv

/-- One of the variables alone. -/
def oneVariable : List (String × String) := [("REALTIME__connection__url", "ws://y")]

/-- What comes of it without a file. -/
def otherSettings : Settings := { Settings.standard with
  connection := { Settings.standard.connection with url := "ws://y" } }

/-- A variable comes before the file, the file before the standard value, and the rest of a file
and of the variables does not count. -/
theorem settings_layered_some :
    load (some someFile) someVariables = .ok someSettings ∧ ByName someVariables
      ∧ given (fileTree (some someFile)) someVariables .url = .single (.text "ws://y")
      ∧ heldIn (fileTree (some someFile)) .baseDelay = .single (.text "250")
      ∧ (∀ k : Setting, k.Takes (given (fileTree (some someFile)) someVariables k)
        (k.of someSettings))
      ∧ Setting.url.of otherSettings = Setting.url.of someSettings := by
  have hload : load (some someFile) someVariables = .ok someSettings :=
    load_of_read read_someFile (by decide +kernel)
  have hname : ByName someVariables := by decide +kernel
  obtain ⟨htakes, hspelled, hplain, hsame⟩ := settings_layered hload hname
  -- the variable spells its setting in other letters
  have hgiven : given (fileTree (some someFile)) someVariables .url = .single (.text "ws://y") := by
    have hurl : Setting.url.SpelledBy "Realtime__Connection__URL" := by
      unfold Setting.SpelledBy
      cbv
    have hvalue : ofVariable "ws://y" = .text "ws://y" := by decide +kernel
    rw [hspelled .url ("Realtime__Connection__URL", "ws://y") List.mem_cons_self hurl, hvalue]
  have hcontents : contents (some someFile) = _ := congrArg (Option.getD · []) read_someFile
  have hbare : Plain (contents (some someFile)) := by
    refine plain_of_bare ?_
    rw [hcontents]
    decide +kernel
  have hstated : stated (contents (some someFile)) .baseDelay = .single (.text "250") := by
    rw [hcontents]
    decide +kernel
  have hother : load none oneVariable = .ok otherSettings := load_of_tree (by decide +kernel)
  have hone : ByName oneVariable := by decide +kernel
  have hsource : given (fileTree none) oneVariable .url = .single (.text "ws://y") := by
    decide +kernel
  exact ⟨hload, hname, hgiven, (hplain hbare _).trans hstated, htakes,
    hsame none oneVariable otherSettings hother hone .url (hsource.trans hgiven.symm)⟩

/-- A file with a section that is an array. -/
def listedFile : String := "connection = [\"ws://x\", \"tok\", \"1\", \"2\"]\n"

theorem read_listedFile : Toml.read listedFile = some [("connection",
    .array [.text "ws://x", .text "tok", .text "1", .text "2"])] := by
  cbv

/-- A variable for a section by number. -/
def numberedVariable : List (String × String) := [("REALTIME__LOGGING[0]", "warn")]

/-- Neither exception can be left out. A variable for one setting takes the others of an array
away, and a variable that names no setting gives one a value by its number. -/
theorem array_dropped :
    (Apart [] ∧ Apart oneVariable
      ∧ fromVariable .tokenParam [] = none ∧ fromVariable .tokenParam oneVariable = none
      ∧ load (some listedFile) [] = .ok { Settings.standard with
        connection := ⟨"ws://x", "tok", 1, 2⟩ }
      ∧ load (some listedFile) oneVariable = .ok otherSettings
      ∧ Setting.tokenParam.of otherSettings = .text "token")
    ∧ Apart numberedVariable ∧ fromVariable .logLevel numberedVariable = none
      ∧ load none numberedVariable = .ok { Settings.standard with logLevel := "warn" } := by
  refine ⟨⟨by decide, by decide +kernel, rfl, by decide +kernel, ?_, ?_, rfl⟩,
    by decide +kernel, by decide +kernel, ?_⟩
  · exact load_of_read read_listedFile (by decide +kernel)
  · exact load_of_read read_listedFile (by decide +kernel)
  · exact load_of_tree (by decide +kernel)

end LiveLink.Proofs
