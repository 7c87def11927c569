import LiveLink.Proofs.Tables
import LiveLink.Toml.Reader

/-!
# The tables of a file are in order

Whatever can be read from a file has its tables in order, those inside other values
included. A table grows by one key at a time, whether a header, a dotted key or a plain one
adds it, and each key goes to its place.
-/

namespace LiveLink.Proofs

open LiveLink Toml

/-! ## Values in order -/

/-- A value in which every table is in order. -/
inductive Collated : Toml → Prop where
  | text (s : String) : Collated (.text s)
  | int (i : Int) : Collated (.int i)
  | real (x : Extended) : Collated (.real x)
  | bool (b : Bool) : Collated (.bool b)
  | time (written : String) : Collated (.time written)
  | array {items : List Toml} (hin : ∀ v ∈ items, Collated v) : Collated (.array items)
  | table {members : List (String × Toml)} (h : Ordered members)
      (hin : ∀ m ∈ members, Collated m.2) : Collated (.table members)

/-- What a key stands for while a file is read, with every table in order. -/
inductive CollatedNode : Toml.Node → Prop where
  | value {v : Toml} (h : Collated v) : CollatedNode (.value v)
  | table {origin : Origin} {members : Members} (h : Ordered members)
      (hin : ∀ m ∈ members, CollatedNode m.2) : CollatedNode (.table origin members)
  | tables {list : List Members} (h : ∀ t ∈ list, Ordered t)
      (hin : ∀ t ∈ list, ∀ m ∈ t, CollatedNode m.2) : CollatedNode (.tables list)

/-- A table that is being read, in order throughout. -/
structure CollatedMembers (members : Members) : Prop where
  ordered : Ordered members
  within : ∀ m ∈ members, CollatedNode m.2

theorem CollatedMembers.nil : CollatedMembers [] := ⟨List.Pairwise.nil, by simp⟩

variable {members members' : Members} {key : String} {n : Toml.Node} {v : Toml}

theorem CollatedMembers.table (h : CollatedMembers members) (origin : Origin) :
    CollatedNode (.table origin members) := .table h.ordered h.within

/-- A table is in order after an entry is put in if the entry is. -/
theorem CollatedMembers.insert (h : CollatedMembers members) (hn : CollatedNode n) :
    CollatedMembers (Table.insert key n members) where
  ordered := ordered_insert h.ordered key n
  within m hm := by
    rcases mem_insert hm with rfl | hm
    · exact hn
    · exact h.within m hm

theorem CollatedMembers.get? (h : CollatedMembers members)
    (hn : Table.get? key members = some n) : CollatedNode n :=
  h.within (key, n) ((get?_of_mem h.ordered).mpr hn)

/-- A list of tables with another one in front. -/
theorem CollatedMembers.cons {list : List Members} (h : CollatedMembers members)
    (hlist : CollatedNode (.tables list)) : CollatedNode (.tables (members :: list)) := by
  cases hlist with
  | tables hbefore hin =>
      exact .tables (List.forall_mem_cons.mpr ⟨h.ordered, hbefore⟩)
        (List.forall_mem_cons.mpr ⟨h.within, hin⟩)

/-! ## Tables grow in order -/

/-- A change at the end of a path that leaves the table there in order leaves all in order. -/
theorem change_collated {dotted : Bool} {f : Origin → Members → Option Members}
    {path : List String} {origin : Origin}
    (hf : ∀ {origin inner inner'}, CollatedMembers inner → f origin inner = some inner' →
      CollatedMembers inner')
    (hm : CollatedMembers members) (h : change dotted f path origin members = some members') :
    CollatedMembers members' := by
  -- each step goes into a table that is in order, and what comes back takes its place
  induction path generalizing origin members members' with
  | nil => exact hf hm h
  | cons key path ih =>
      unfold change at h
      split at h
      · obtain ⟨inner, hinner, rfl⟩ := Option.map_eq_some_iff.mp h
        exact hm.insert ((ih .nil hinner).table _)
      · cases h
      · cases h
      · rename_i last before hlast
        obtain ⟨inner, hinner, rfl⟩ := Option.map_eq_some_iff.mp h
        -- only the last table of an array is gone into, the ones before it stay
        cases hm.get? hlast with
        | tables hordered hin =>
            obtain ⟨hlast, hbefore⟩ := List.forall_mem_cons.mp hordered
            obtain ⟨hwithin, hin⟩ := List.forall_mem_cons.mp hin
            exact hm.insert ((ih ⟨hlast, hwithin⟩ hinner).cons (.tables hbefore hin))
      · rename_i known inner hknown
        split at h
        · cases h
        · obtain ⟨inner', hinner, rfl⟩ := Option.map_eq_some_iff.mp h
          cases hm.get? hknown with
          | table hordered hin => exact hm.insert ((ih ⟨hordered, hin⟩ hinner).table _)

/-- A value at a dotted path; a value that is there already is refused. -/
theorem put_collated {path : List String} (hv : Collated v) (hm : CollatedMembers members)
    (h : put path key v members = some members') : CollatedMembers members' := by
  refine change_collated ?_ hm h
  intro origin inner inner' hinner h
  split at h
  · obtain rfl := Option.some.inj h
    exact hinner.insert (.value hv)
  · cases h

theorem putInto_collated {header path : List String} (hv : Collated v)
    (hm : CollatedMembers members) (h : putInto header path key v members = some members') :
    CollatedMembers members' :=
  change_collated (fun hinner h => put_collated hv hinner h) hm h

/-- A header opens a table that is new, or one that other headers have made on their way. -/
theorem openTable_collated {path : List String} (hm : CollatedMembers members)
    (h : openTable path key members = some members') : CollatedMembers members' := by
  refine change_collated ?_ hm h
  intro origin inner inner' hinner h
  split at h
  · obtain rfl := Option.some.inj h
    exact hinner.insert (CollatedMembers.nil.table _)
  · rename_i known hknown
    obtain rfl := Option.some.inj h
    cases hinner.get? hknown with
    | table hordered hin => exact hinner.insert (.table hordered hin)
  · cases h

/-- A header in double brackets puts a table in front of those it had, the last one first. -/
theorem openItem_collated {path : List String} (hm : CollatedMembers members)
    (h : openItem path key members = some members') : CollatedMembers members' := by
  -- the key is new, or is an array of tables already; any other use of it is an error
  refine change_collated ?_ hm h
  intro origin inner inner' hinner h
  split at h
  · obtain rfl := Option.some.inj h
    exact hinner.insert (CollatedMembers.nil.cons (.tables (by simp) (by simp)))
  · rename_i list hlist
    obtain rfl := Option.some.inj h
    exact hinner.insert (CollatedMembers.nil.cons (hinner.get? hlist))
  · cases h

/-! ## Closing -/

/-- To close a table keeps its keys, hence their order. -/
theorem keys_closeMembers (members : Members) :
    Table.keys (closeMembers members) = Table.keys members := by
  induction members with
  | nil => rfl
  | cons m rest ih => exact congrArg (m.1 :: ·) ih

theorem ordered_closeMembers (h : Ordered members) : Ordered (closeMembers members) := by
  unfold Ordered
  rwa [keys_closeMembers]

mutual

/-- The order of a table that is closed is that of the table that was read, at each depth. -/
theorem close_collated : (n : Toml.Node) → CollatedNode n → Collated n.close
  | .value _, .value h => h
  | .table _ members, .table h hin =>
      .table (ordered_closeMembers h) (closeMembers_within members hin)
  | .tables list, .tables h hin =>
      .array fun v hv => closeItems_collated list h hin v (List.mem_reverse.mp hv)

theorem closeMembers_within : (members : Members) → (∀ m ∈ members, CollatedNode m.2) →
    ∀ m ∈ closeMembers members, Collated m.2
  | [], _ => by simp [closeMembers]
  | (_, n) :: rest, h => by
      obtain ⟨hn, hrest⟩ := List.forall_mem_cons.mp h
      exact List.forall_mem_cons.mpr ⟨close_collated n hn, closeMembers_within rest hrest⟩

theorem closeItems_collated : (list : List Members) → (∀ t ∈ list, Ordered t) →
    (∀ t ∈ list, ∀ m ∈ t, CollatedNode m.2) → ∀ v ∈ closeItems list, Collated v
  | [], _, _ => by simp [closeItems]
  | members :: rest, h, hin => by
      obtain ⟨hfirst, hrest⟩ := List.forall_mem_cons.mp h
      obtain ⟨hwithin, hin⟩ := List.forall_mem_cons.mp hin
      exact List.forall_mem_cons.mpr
        ⟨.table (ordered_closeMembers hfirst) (closeMembers_within members hwithin),
          closeItems_collated rest hrest hin⟩

end

theorem CollatedMembers.close (h : CollatedMembers members) :
    Collated (.table (closeMembers members)) :=
  .table (ordered_closeMembers h.ordered) (closeMembers_within members h.within)

/-! ## Reading single values -/

theorem word_collated {i : Int} (h : word? i = some v) : Collated v := by
  obtain ⟨-, h⟩ := Option.ite_none_right_eq_some.mp h
  cases h
  exact .int i

theorem based_collated {base : Nat} {cs : List Char} (h : based? base cs = some v) :
    Collated v := by
  obtain ⟨ds, -, h⟩ := Option.bind_eq_some_iff.mp h
  exact word_collated h

theorem decimal_collated {negative : Bool} {cs : List Char} (h : decimal? negative cs = some v) :
    Collated v := by
  obtain ⟨ds, -, h⟩ := Option.bind_eq_some_iff.mp h
  exact word_collated h

/-- A number with a fraction or with an exponent. -/
theorem real_collated {negative : Bool} {cs : List Char} (h : real? negative cs = some v) :
    Collated v := by
  obtain ⟨ds, -, h⟩ := Option.bind_eq_some_iff.mp h
  dsimp only at h
  -- there may or may not be a fraction, and then there may or may not be an exponent
  split at h
  all_goals
    obtain ⟨places, -, h⟩ := Option.bind_eq_some_iff.mp h
    split at h
    all_goals
      obtain ⟨power, -, h⟩ := Option.bind_eq_some_iff.mp h
      split at h
      · cases h
      · cases h
        exact .real _

/-- What is neither text nor date is a truth value or a number. -/
theorem scalar_collated {word : List Char} (h : scalar? word = some v) : Collated v := by
  unfold scalar? at h
  split at h
  · exact based_collated h
  · exact based_collated h
  · exact based_collated h
  · -- words for truth values, then those for infinity and for no number, then digits
    split at h
    · cases h
      exact .bool true
    split at h
    · cases h
      exact .bool false
    dsimp only at h
    split at h
    · cases h
      exact .real _
    split at h
    · cases h
      exact .real _
    split at h
    · exact real_collated h
    · exact decimal_collated h

theorem readWord_collated {cs cs' : List Char} (h : readWord cs = some (v, cs')) : Collated v := by
  rw [readWord] at h
  generalize cutWord cs = cut at h
  obtain ⟨w, hw, h⟩ := Option.map_eq_some_iff.mp h
  cases h
  split at hw
  · obtain ⟨written, -, rfl⟩ := Option.map_eq_some_iff.mp hw
    exact .time written
  · exact scalar_collated hw

theorem readSingle_collated {cs cs' : List Char} (h : readSingle cs = some (v, cs')) :
    Collated v := by
  unfold readSingle at h
  split at h
  · obtain ⟨⟨s, rest⟩, -, h⟩ := Option.map_eq_some_iff.mp h
    cases h
    exact .text s
  · obtain ⟨⟨s, rest⟩, -, h⟩ := Option.map_eq_some_iff.mp h
    cases h
    exact .text s
  · exact readWord_collated h

/-! ## Reading arrays and tables -/

section Readers

variable {item : ValueReader} {vs : List Toml} {cs cs' : List Char} {N : Nat}

/-- Items in order make an array in order. -/
theorem readItems_collated (hitem : ∀ {cs v rest}, item cs = some (v, rest) → Collated v)
    (h : readItems item N cs = some (vs, cs')) : ∀ v ∈ vs, Collated v := by
  induction N generalizing cs vs with
  | zero => cases h
  | succ n ih =>
      rw [readItems] at h
      obtain ⟨rest, -, h⟩ := Option.bind_eq_some_iff.mp h
      split at h
      · cases h
        simp
      · -- an item is followed by the end, or by a comma and the other items
        obtain ⟨⟨v, rest⟩, hv, h⟩ := Option.bind_eq_some_iff.mp h
        obtain ⟨rest', -, h⟩ := Option.bind_eq_some_iff.mp h
        split at h
        · cases h
          exact List.forall_mem_cons.mpr ⟨hitem hv, by simp⟩
        · obtain ⟨⟨vs, rest⟩, hvs, h⟩ := Option.bind_eq_some_iff.mp h
          cases h
          exact List.forall_mem_cons.mpr ⟨hitem hv, ih hvs⟩
        · cases h

/-- A key, an equals sign and a value, which goes where *put* takes it. -/
theorem readMember_collated {skip : List Char → Option (List Char)}
    {put : List String → String → Toml → Members → Option Members}
    (hitem : ∀ {cs v rest}, item cs = some (v, rest) → Collated v)
    (hput : ∀ {path key v members'}, Collated v → put path key v members = some members' →
      CollatedMembers members')
    (h : readMember skip item put members cs = some (members', cs')) :
    CollatedMembers members' := by
  rw [readMember] at h
  obtain ⟨⟨path, key, rest⟩, -, h⟩ := Option.bind_eq_some_iff.mp h
  obtain ⟨rest, -, h⟩ := Option.bind_eq_some_iff.mp h
  obtain ⟨rest, -, h⟩ := Option.bind_eq_some_iff.mp h
  obtain ⟨rest, -, h⟩ := Option.bind_eq_some_iff.mp h
  obtain ⟨⟨v, rest⟩, hv, h⟩ := Option.bind_eq_some_iff.mp h
  obtain ⟨grown, hgrown, h⟩ := Option.bind_eq_some_iff.mp h
  cases h
  exact hput (hitem hv) hgrown

theorem readMembers_collated (hitem : ∀ {cs v rest}, item cs = some (v, rest) → Collated v)
    (hm : CollatedMembers members) (h : readMembers item N members cs = some (members', cs')) :
    CollatedMembers members' := by
  induction N generalizing cs members with
  | zero => cases h
  | succ n ih =>
      rw [readMembers] at h
      obtain ⟨rest, -, h⟩ := Option.bind_eq_some_iff.mp h
      split at h
      · cases h
        exact hm
      · obtain ⟨⟨grown, rest⟩, hgrown, h⟩ := Option.bind_eq_some_iff.mp h
        have hgrown := readMember_collated hitem (fun hv h => put_collated hv hm h) hgrown
        obtain ⟨rest', -, h⟩ := Option.bind_eq_some_iff.mp h
        split at h
        · cases h
          exact hgrown
        · exact ih hgrown h
        · cases h

/-- A table in braces begins empty and is closed at once. -/
theorem readInline_collated (hitem : ∀ {cs v rest}, item cs = some (v, rest) → Collated v)
    (h : readInline item cs = some (v, cs')) : Collated v := by
  obtain ⟨⟨grown, rest⟩, hgrown, h⟩ := Option.map_eq_some_iff.mp h
  cases h
  exact (readMembers_collated hitem .nil hgrown).close

end Readers

/-- **A value of a file is in order**, however deep its arrays and tables go. -/
theorem readValue_collated {depth : Nat} {cs cs' : List Char}
    (h : readValue depth cs = some (v, cs')) : Collated v := by
  -- what an array or a table holds was read one level deeper
  induction depth generalizing cs cs' v with
  | zero => exact readSingle_collated h
  | succ depth ih =>
      unfold readValue at h
      split at h
      · obtain ⟨⟨vs, rest⟩, hvs, h⟩ := Option.map_eq_some_iff.mp h
        cases h
        exact .array (readItems_collated ih hvs)
      · exact readInline_collated ih h
      · exact readSingle_collated h

/-! ## Reading lines -/

section Lines

variable {st st' : State} {cs cs' : List Char}

/-- A header reads no value. -/
theorem readHeader_collated (hst : CollatedMembers st.members)
    (h : readHeader st cs = some (st', cs')) : CollatedMembers st'.members := by
  obtain ⟨⟨path, key, rest⟩, -, h⟩ := Option.bind_eq_some_iff.mp h
  obtain ⟨rest, -, h⟩ := Option.bind_eq_some_iff.mp h
  obtain ⟨grown, hgrown, h⟩ := Option.bind_eq_some_iff.mp h
  cases h
  exact openTable_collated hst hgrown

theorem readItemHeader_collated (hst : CollatedMembers st.members)
    (h : readItemHeader st cs = some (st', cs')) : CollatedMembers st'.members := by
  obtain ⟨⟨path, key, rest⟩, -, h⟩ := Option.bind_eq_some_iff.mp h
  obtain ⟨rest, -, h⟩ := Option.bind_eq_some_iff.mp h
  obtain ⟨rest, -, h⟩ := Option.bind_eq_some_iff.mp h
  obtain ⟨grown, hgrown, h⟩ := Option.bind_eq_some_iff.mp h
  cases h
  exact openItem_collated hst hgrown

/-- A line leaves all tables in order. -/
theorem readLine_collated (hst : CollatedMembers st.members)
    (h : readLine st cs = some (st', cs')) : CollatedMembers st'.members := by
  unfold readLine at h
  split at h
  · exact readItemHeader_collated hst h
  · exact readHeader_collated hst h
  · obtain ⟨⟨grown, rest⟩, hgrown, h⟩ := Option.map_eq_some_iff.mp h
    cases h
    exact readMember_collated readValue_collated (fun hv h => putInto_collated hv hst h) hgrown

/-- Lines are read one after another, each into what those before it have made. -/
theorem readFile_collated {n : Nat} (hst : CollatedMembers st.members)
    (h : readFile n st cs = some st') : CollatedMembers st'.members := by
  induction n generalizing st cs with
  | zero => cases h
  | succ n ih =>
      rw [readFile] at h
      obtain ⟨rest, -, h⟩ := Option.bind_eq_some_iff.mp h
      split at h
      · cases h
        exact hst
      · -- the end of a line is read, and then the file goes on
        obtain ⟨⟨next, rest⟩, hline, h⟩ := Option.bind_eq_some_iff.mp h
        obtain ⟨rest', -, h⟩ := Option.bind_eq_some_iff.mp h
        exact ih (readLine_collated hst hline) h

end Lines

/-- **A file that can be read is in order.** -/
theorem read_collated {s : String} {file : List (String × Toml)} (h : read s = some file) :
    Collated (.table file) := by
  obtain ⟨st, hst, rfl⟩ := Option.map_eq_some_iff.mp h
  exact (readFile_collated .nil hst).close

end LiveLink.Proofs
