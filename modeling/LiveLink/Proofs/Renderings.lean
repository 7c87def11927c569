import LiveLink.Json.Reader
import LiveLink.Proofs.Numerals
import LiveLink.Proofs.Spellings

/-!
# The texts of a value

`Renders cs v` says that `cs` is a text of the value `v`: strings in any spelling,
blanks wherever they may stand, members in the order in which the value lists them.
Numbers are integers, as they are the ones with a single text.

Two readers meet these texts. `readValue_renders`: the one that decodes ends behind
the text, with the value in order (`Json.sorted`), unless the value nests deeper than
it may. `skipValue_renders`: the one that skips ends behind the text at any depth.
Both are loops over items and members, and the loops are followed once, for any
reader of an item (`readItems_ahead`, `readMembers_ahead`).
-/

namespace LiveLink.Proofs

open LiveLink Json

/-! ## The grammar -/

/-- Blanks between tokens. -/
def Blank (ws : List Char) : Prop := ∀ c ∈ ws, c = ' ' ∨ c = '\n' ∨ c = '\t' ∨ c = '\r'

theorem blank_nil : Blank [] := by simp [Blank]

section Grammar

variable {α : Type}

/-- A text with blanks around it. -/
inductive Padded (R : List Char → α → Prop) : List Char → α → Prop where
  | mk {before cs after : List Char} {a : α} :
      Blank before → R cs a → Blank after → Padded R (before ++ (cs ++ after)) a

/-- A member: its name, a colon, its value. -/
inductive Paired (R : List Char → α → Prop) : List Char → String × α → Prop where
  | mk {name : String} {a : α} {ns before after cs : List Char} :
      Quoted name ns → Blank before → Blank after → R cs a →
      Paired R (ns ++ (before ++ ':' :: (after ++ cs))) (name, a)

/-- What follows the first text of a row. -/
inductive Tail (R : List Char → α → Prop) : List Char → List α → Prop where
  | nil : Tail R [] []
  | cons {a : α} {as : List α} {cs rest : List Char} :
      R cs a → Tail R rest as → Tail R (',' :: (cs ++ rest)) (a :: as)

/-- Texts with commas between them, or blanks only. -/
inductive Row (R : List Char → α → Prop) : List Char → List α → Prop where
  | nil {ws : List Char} : Blank ws → Row R ws []
  | cons {a : α} {as : List α} {cs rest : List Char} :
      R cs a → Tail R rest as → Row R (cs ++ rest) (a :: as)

end Grammar

/-- The values with a name, which is given as its first letter and the others. -/
inductive Named : Char → List Char → Json → Prop where
  | null : Named 'n' ['u', 'l', 'l'] .null
  | true : Named 't' ['r', 'u', 'e'] (.bool true)
  | false : Named 'f' ['a', 'l', 's', 'e'] (.bool false)

/-- The texts of a value. -/
inductive Renders : List Char → Json → Prop where
  | named {x : Char} {word : List Char} {v : Json} : Named x word v → Renders (x :: word) v
  | int {i : Int} : Fits i → Renders (toString i).toList (.number (.int i))
  | string {s : String} {cs : List Char} : Quoted s cs → Renders cs (.string s)
  | array {items : List Json} {cs : List Char} :
      Row (Padded Renders) cs items → Renders ('[' :: (cs ++ [']'])) (.array items)
  | object {members : List (String × Json)} {cs : List Char} :
      Row (Padded (Paired Renders)) cs members → Renders ('{' :: (cs ++ ['}'])) (.object members)

/-! ## Places in a text -/

section Places

variable {ws ws' cs rest : List Char} {x : Char}

/-- Blanks are passed over, wherever the text had got to. -/
theorem skipFrom_append (hws : Blank ws) (p : Position) (rest : List Char) :
    ∃ q, Cursor.skipFrom p (ws ++ rest) = Cursor.skipFrom q rest := by
  induction ws generalizing p with
  | nil => exact ⟨p, rfl⟩
  | cons c ws ih =>
      have hc : Cursor.isBlank c = true := by
        rcases hws c List.mem_cons_self with rfl | rfl | rfl | rfl <;> decide
      obtain ⟨q, hq⟩ := ih (fun c hc => hws c (List.mem_cons_of_mem _ hc)) (p.past c)
      refine ⟨q, ?_⟩
      rw [List.cons_append, Cursor.skipFrom, if_pos hc, hq]

/-- So a reader comes to the first character that is none. -/
theorem skipBlanks_cons (hws : Blank ws) (hx : Cursor.isBlank x = false) (p : Position)
    (rest : List Char) : ∃ q, Cursor.skipBlanks ⟨ws ++ x :: rest, p⟩ = ⟨x :: rest, q⟩ := by
  obtain ⟨q, hq⟩ := skipFrom_append hws p (x :: rest)
  refine ⟨q, ?_⟩
  unfold Cursor.skipBlanks
  rw [hq, Cursor.skipFrom, if_neg (by simp [hx])]

theorem skipBlanks_end (hws : Blank ws) (p : Position) :
    ∃ q, Cursor.skipBlanks ⟨ws, p⟩ = ⟨[], q⟩ := by
  obtain ⟨q, hq⟩ := skipFrom_append hws p []
  refine ⟨q, ?_⟩
  unfold Cursor.skipBlanks
  rw [← List.append_nil ws, hq]
  rfl

theorem expectWord_append (word rest : List Char) (p : Position) :
    ∃ q, Cursor.expectWord word ⟨word ++ rest, p⟩ = .ok ⟨rest, q⟩ := by
  induction word generalizing p with
  | nil => exact ⟨p, rfl⟩
  | cons w word ih =>
      obtain ⟨q, hq⟩ := ih (p.past w)
      refine ⟨q, ?_⟩
      rw [List.cons_append, Cursor.expectWord]
      exact (if_pos rfl).trans hq

/-- An integer ends at any character that could not go on with it. -/
theorem endsInteger_cons (h : x.isDigit = false ∧ x ≠ '.' ∧ x ≠ 'e' ∧ x ≠ 'E') :
    EndsInteger (x :: rest) := by
  intro c hc
  rw [← Option.some.inj hc]
  exact h

theorem endsInteger_nil : EndsInteger [] := by
  intro c hc
  cases hc

theorem Blank.endsInteger (hws : Blank ws) (h : EndsInteger rest) : EndsInteger (ws ++ rest) := by
  cases ws with
  | nil => exact h
  | cons c ws =>
      refine endsInteger_cons ?_
      rcases hws c List.mem_cons_self with rfl | rfl | rfl | rfl <;> decide

end Places

theorem ne_of_isDigit {d x : Char} (hd : d.isDigit = true) (hx : x.isDigit = false) : d ≠ x := by
  rintro rfl
  rw [hd] at hx
  cases hx

theorem isBlank_of_isDigit {d : Char} (hd : d.isDigit = true) : Cursor.isBlank d = false := by
  simp [Cursor.isBlank, ne_of_isDigit hd]

/-- A text begins with a character that is no blank and closes no array. -/
def Begins (cs : List Char) : Prop :=
  ∃ x xs, cs = x :: xs ∧ Cursor.isBlank x = false ∧ x ≠ ']'

/-- The text of an integer is its digits, with a minus in front below zero. -/
theorem toString_int_cases (i : Int) :
    (0 ≤ i ∧ (toString i).toList = Nat.toDigits 10 i.natAbs)
      ∨ (i < 0 ∧ (toString i).toList = '-' :: Nat.toDigits 10 i.natAbs) := by
  cases i with
  | ofNat n =>
      refine .inl ⟨Int.natCast_nonneg n, ?_⟩
      exact Nat.toList_repr
  | negSucc n =>
      refine .inr ⟨Int.negSucc_lt_zero n, ?_⟩
      show ("-" ++ Nat.repr (n + 1)).toList = _
      rw [String.toList_append, Nat.toList_repr]
      rfl

/-- An integer begins with a digit or its sign. -/
theorem int_begins (i : Int) : ∃ x xs, (toString i).toList = x :: xs
    ∧ ∀ {y : Char}, y.isDigit = false → y ≠ '-' → x ≠ y := by
  rcases toString_int_cases i with ⟨-, h⟩ | ⟨-, h⟩
  · obtain ⟨d, ds, hds, hd, -⟩ := toDigits_cons i.natAbs
    exact ⟨d, ds, h.trans hds, fun hy _ => ne_of_isDigit hd hy⟩
  · exact ⟨'-', _, h, fun _ hy => hy.symm⟩

theorem Renders.begins {cs : List Char} {v : Json} (h : Renders cs v) : Begins cs := by
  cases h with
  | named h => cases h <;> exact ⟨_, _, rfl, by decide⟩
  | @int i _ =>
      obtain ⟨x, xs, hcs, hx⟩ := int_begins i
      exact ⟨x, xs, hcs, by simp [Cursor.isBlank, hx], hx (by decide) (by decide)⟩
  | string h =>
      obtain ⟨body, -, rfl⟩ := h
      exact ⟨'"', _, rfl, by decide⟩
  | array _ => exact ⟨'[', _, rfl, by decide⟩
  | object _ => exact ⟨'{', _, rfl, by decide⟩

/-! ## Items and members -/

/-- What a reader comes to, wherever it started: a value and the text it leaves, or an error. -/
def Yields {α : Type} (r : Except Json.Error (α × Cursor)) (a : Option α) (rest : List Char) :
    Prop :=
  match a with
  | some a => ∃ q, r = .ok (a, ⟨rest, q⟩)
  | none => ∃ e, r = .error e

/-- What is done with a value afterwards is done with what was yielded. -/
theorem Yields.map {α β : Type} {r : Except Json.Error (α × Cursor)} {a : Option α}
    {rest : List Char} (h : Yields r a rest) (f : α → β) :
    Yields (r >>= fun x => pure (f x.1, x.2)) (a.map f) rest := by
  cases a with
  | none =>
      obtain ⟨e, rfl⟩ := h
      exact ⟨e, rfl⟩
  | some a =>
      obtain ⟨q, rfl⟩ := h
      exact ⟨q, rfl⟩

/-- A closing bracket is passed after what stands in front of it. -/
theorem Yields.close {α β : Type} {r : Except Json.Error (α × Cursor)} {a : Option α} {x : Char}
    {rest : List Char} (h : Yields r a (x :: rest)) (f : α → β) :
    Yields (r >>= fun y => pure (f y.1, y.2.next)) (a.map f) rest := by
  cases a with
  | none =>
      obtain ⟨e, rfl⟩ := h
      exact ⟨e, rfl⟩
  | some a =>
      obtain ⟨q, rfl⟩ := h
      exact ⟨q.past x, rfl⟩

section Rows

variable {α : Type} {ws ws' cs more rest : List Char} {first : Bool} {close : Char}

/-- What leads to a text of a row: blanks, with a comma among them behind another text. -/
inductive Lead : Bool → List Char → Prop where
  | first {ws : List Char} : Blank ws → Lead true ws
  | comma {ws ws' : List Char} : Blank ws → Blank ws' → Lead false (ws ++ ',' :: ws')

/-- A row of texts and its closing bracket lie ahead, or what is left of them behind a text. -/
inductive Ahead (R : List Char → α → Prop) (close : Char) (rest : List Char) :
    Bool → List Char → List α → Prop where
  | row {cs : List Char} {as : List α} :
      Row (Padded R) cs as → Ahead R close rest true (cs ++ close :: rest) as
  | tail {ws cs : List Char} {as : List α} :
      Blank ws → Tail (Padded R) cs as → Ahead R close rest false (ws ++ (cs ++ close :: rest)) as

/-- Behind the last text of a row only blanks stand before the bracket. -/
theorem Ahead.nil {R : List Char → α → Prop} (h : Ahead R close rest first cs []) :
    ∃ ws, Blank ws ∧ cs = ws ++ close :: rest := by
  cases h with
  | row hrow =>
      cases hrow with
      | nil hws => exact ⟨_, hws, rfl⟩
  | tail hws htail =>
      cases htail with
      | nil => exact ⟨_, hws, rfl⟩

/-- The next text of a row, and the place behind it. -/
theorem Ahead.cons {R : List Char → α → Prop} {a : α} {as : List α}
    (h : Ahead R close rest first cs (a :: as)) :
    ∃ lead text more, Lead first lead ∧ R text a ∧ Ahead R close rest false more as
      ∧ cs = lead ++ (text ++ more) := by
  cases h with
  | row hrow =>
      cases hrow with
      | cons hpad htail =>
          obtain @⟨before, text, after, _, hbefore, htext, hafter⟩ := hpad
          exact ⟨before, text, _, .first hbefore, htext, .tail hafter htail, by simp⟩
  | tail hws htail =>
      cases htail with
      | cons hpad htail =>
          obtain @⟨before, text, after, _, hbefore, htext, hafter⟩ := hpad
          exact ⟨_, text, _, .comma hws hbefore, htext, .tail hafter htail, by simp⟩

/-- No integer goes on behind a text of a row. -/
theorem Ahead.endsInteger {R : List Char → α → Prop} {as : List α}
    (h : Ahead R close rest false cs as) (hclose : EndsInteger (close :: rest)) :
    EndsInteger cs := by
  cases h with
  | tail hws htail =>
      refine hws.endsInteger ?_
      cases htail with
      | nil => exact hclose
      | cons _ _ => exact endsInteger_cons (by decide)

/-- A reader finds the next item behind blanks and its comma. -/
theorem nextItem_lead (hlead : Lead first ws) (hcs : Begins cs) (p : Position)
    (more : List Char) :
    ∃ q, nextItem first ⟨ws ++ (cs ++ more), p⟩ = .ok (true, ⟨cs ++ more, q⟩) := by
  obtain ⟨x, xs, rfl, hx, hclose⟩ := hcs
  cases hlead with
  | first hws =>
      obtain ⟨q, hq⟩ := skipBlanks_cons hws hx p (xs ++ more)
      refine ⟨q, ?_⟩
      unfold nextItem
      simp only [List.cons_append, hq, hclose, if_false, if_true]
  | @comma before after hbefore hafter =>
      obtain ⟨q, hq⟩ := skipBlanks_cons hbefore (x := ',') (by decide) p
        (after ++ x :: (xs ++ more))
      obtain ⟨q', hq'⟩ := skipBlanks_cons hafter hx (q.past ',') (xs ++ more)
      refine ⟨q', ?_⟩
      simp only [List.append_assoc, List.cons_append]
      unfold nextItem
      rw [hq]
      simp only [Cursor.next, hq', hclose, if_false, if_true, Bool.false_eq_true]
      rfl

theorem nextItem_close (hws : Blank ws) (first : Bool) (p : Position) (rest : List Char) :
    ∃ q, nextItem first ⟨ws ++ ']' :: rest, p⟩ = .ok (false, ⟨']' :: rest, q⟩) := by
  obtain ⟨q, hq⟩ := skipBlanks_cons hws (x := ']') (by decide) p rest
  refine ⟨q, ?_⟩
  unfold nextItem
  simp only [hq, if_true]

/-- Members likewise, up to the quote that begins their names. -/
theorem nextMember_lead (hlead : Lead first ws) (p : Position) (ds : List Char) :
    ∃ q, nextMember first ⟨ws ++ '"' :: ds, p⟩ = .ok (true, ⟨ds, q⟩) := by
  cases hlead with
  | first hws =>
      obtain ⟨q, hq⟩ := skipBlanks_cons hws (x := '"') (by decide) p ds
      refine ⟨q.past '"', ?_⟩
      unfold nextMember
      rw [hq]
      rfl
  | @comma before after hbefore hafter =>
      obtain ⟨q, hq⟩ := skipBlanks_cons hbefore (x := ',') (by decide) p (after ++ '"' :: ds)
      obtain ⟨q', hq'⟩ := skipBlanks_cons hafter (x := '"') (by decide) (q.past ',') ds
      refine ⟨q'.past '"', ?_⟩
      simp only [List.append_assoc, List.cons_append]
      unfold nextMember
      rw [hq]
      simp only [Cursor.next, hq']
      rfl

theorem nextMember_close (hws : Blank ws) (first : Bool) (p : Position) (rest : List Char) :
    ∃ q, nextMember first ⟨ws ++ '}' :: rest, p⟩ = .ok (false, ⟨'}' :: rest, q⟩) := by
  obtain ⟨q, hq⟩ := skipBlanks_cons hws (x := '}') (by decide) p rest
  refine ⟨q, ?_⟩
  unfold nextMember
  simp only [hq, if_true]

theorem readColon_append (hws : Blank ws) (p : Position) (rest : List Char) :
    ∃ q, readColon ⟨ws ++ ':' :: rest, p⟩ = .ok ⟨rest, q⟩ := by
  obtain ⟨q, hq⟩ := skipBlanks_cons hws (x := ':') (by decide) p rest
  refine ⟨q.past ':', ?_⟩
  unfold readColon
  rw [hq]
  rfl

/-- What a reader of an item makes of what it has is a step on the item's value. -/
def TakesItem (item : α → Cursor → Except Json.Error (α × Cursor)) (step : α → Json → Option α) :
    Prop :=
  ∀ {v : Json} {cs rest : List Char} (acc : α) (p : Position), Renders cs v → EndsInteger rest →
    Yields (item acc ⟨cs ++ rest, p⟩) (step acc v) rest

/-- **The items of an array are taken one after the other.** -/
theorem readItems_ahead {item : α → Cursor → Except Json.Error (α × Cursor)}
    {step : α → Json → Option α} (htakes : TakesItem item step) {vs : List Json}
    (h : Ahead Renders ']' rest first cs vs) {n : Nat} (hn : cs.length < n) (acc : α)
    (p : Position) :
    Yields (readItems item n first acc ⟨cs, p⟩) (vs.foldlM step acc) (']' :: rest) := by
  induction vs generalizing first cs n acc p with
  | nil =>
      obtain ⟨ws, hws, rfl⟩ := h.nil
      obtain ⟨n, rfl⟩ := Nat.exists_eq_add_one_of_ne_zero (Nat.ne_zero_of_lt hn)
      obtain ⟨q, hq⟩ := nextItem_close hws first p rest
      refine ⟨q, ?_⟩
      rw [readItems, hq]
  | cons v vs ih =>
      obtain ⟨lead, text, more, hlead, htext, hmore, rfl⟩ := h.cons
      obtain ⟨n, rfl⟩ := Nat.exists_eq_add_one_of_ne_zero (Nat.ne_zero_of_lt hn)
      obtain ⟨q, hq⟩ := nextItem_lead hlead htext.begins p more
      have hitem := htakes acc q htext (hmore.endsInteger (endsInteger_cons (by decide)))
      rw [List.foldlM_cons]
      cases hstep : step acc v with
      | none =>
          rw [hstep] at hitem
          obtain ⟨e, he⟩ := hitem
          refine ⟨e, ?_⟩
          rw [readItems, hq]
          simp only [he]
      | some acc' =>
          rw [hstep] at hitem
          obtain ⟨q', hq'⟩ := hitem
          have hround : readItems item (n + 1) first acc ⟨lead ++ (text ++ more), p⟩
              = readItems item n false acc' ⟨more, q'⟩ := by
            rw [readItems, hq]
            simp only [hq']
          -- each item takes at least one character, so there are rounds enough for the rest
          have hlong : more.length < n := by
            obtain ⟨x, xs, rfl, -, -⟩ := htext.begins
            simp only [List.length_append, List.length_cons] at hn
            omega
          rw [hround]
          exact ih hmore hlong acc' q'

/-- What a reader of a member makes of what it has, from behind the name on, is a step on the name
and the value. -/
def TakesMember (member : α → String → Cursor → Except Json.Error (α × Cursor))
    (step : α → String × Json → Option α) : Prop :=
  ∀ {m : String × Json} {before after cs rest : List Char} (acc : α) (p : Position),
    Blank before → Blank after → Renders cs m.2 → EndsInteger rest →
    Yields (member acc m.1 ⟨before ++ ':' :: (after ++ (cs ++ rest)), p⟩) (step acc m) rest

/-- **The members of an object are taken one after the other.** -/
theorem readMembers_ahead {member : α → String → Cursor → Except Json.Error (α × Cursor)}
    {step : α → String × Json → Option α} (htakes : TakesMember member step)
    {ms : List (String × Json)} (h : Ahead (Paired Renders) '}' rest first cs ms) {n : Nat}
    (hn : cs.length < n) (acc : α) (p : Position) :
    Yields (readMembers member n first acc ⟨cs, p⟩) (ms.foldlM step acc) ('}' :: rest) := by
  induction ms generalizing first cs n acc p with
  | nil =>
      obtain ⟨ws, hws, rfl⟩ := h.nil
      obtain ⟨n, rfl⟩ := Nat.exists_eq_add_one_of_ne_zero (Nat.ne_zero_of_lt hn)
      obtain ⟨q, hq⟩ := nextMember_close hws first p rest
      refine ⟨q, ?_⟩
      rw [readMembers, hq]
  | cons m ms ih =>
      obtain ⟨lead, _, more, hlead, hpair, hmore, rfl⟩ := h.cons
      obtain @⟨name, v, ns, before, after, text, hns, hbefore, hafter, htext⟩ := hpair
      obtain ⟨n, rfl⟩ := Nat.exists_eq_add_one_of_ne_zero (Nat.ne_zero_of_lt hn)
      simp only [List.append_assoc, List.cons_append] at hn ⊢
      obtain ⟨ds, hds, hname⟩ := readString_quoted hns (before ++ ':' :: (after ++ (text ++ more)))
      -- the quote of the name is one character at least
      have hlong : more.length < n := by
        have hlength := congrArg List.length hds
        rw [hds] at hn
        simp only [List.length_append, List.length_cons] at hn hlength
        omega
      rw [hds]
      obtain ⟨q, hq⟩ := nextMember_lead hlead p ds
      obtain ⟨q', hq'⟩ := hname q
      have hmember := htakes (m := (name, v)) acc q' hbefore hafter htext
        (hmore.endsInteger (endsInteger_cons (by decide)))
      rw [List.foldlM_cons]
      cases hstep : step acc (name, v) with
      | none =>
          rw [hstep] at hmember
          obtain ⟨e, he⟩ := hmember
          refine ⟨e, ?_⟩
          rw [readMembers, hq]
          simp only [hq', he]
      | some acc' =>
          rw [hstep] at hmember
          obtain ⟨q'', hq''⟩ := hmember
          have hround : readMembers member (n + 1) first acc ⟨lead ++ '"' :: ds, p⟩
              = readMembers member n false acc' ⟨more, q''⟩ := by
            rw [readMembers, hq]
            simp only [hq', hq'']
          rw [hround]
          exact ih hmore hlong acc' q''

end Rows

/-! ## Values -/

mutual

/-- How many containers are open at the deepest place of a value. -/
def nesting : Json → Nat
  | .array items => nestingItems items + 1
  | .object members => nestingMembers members + 1
  | _ => 0

/-- The deepest nesting of some items. -/
def nestingItems : List Json → Nat
  | [] => 0
  | v :: rest => max (nesting v) (nestingItems rest)

/-- The deepest nesting of the values of some members. -/
def nestingMembers : List (String × Json) → Nat
  | [] => 0
  | (_, v) :: rest => max (nesting v) (nestingMembers rest)

end

/-- An array nests as deep as its deepest item, so either all items fit or the array does not. -/
theorem foldlM_items (d : Nat) (acc : List Json) (vs : List Json) :
    vs.foldlM (fun acc v => if nesting v ≤ d then some (v.sorted :: acc) else none) acc
      = if nestingItems vs ≤ d then some ((sortedItems vs).reverse ++ acc) else none := by
  induction vs generalizing acc with
  | nil => simp [nestingItems, sortedItems]
  | cons v vs ih =>
      rw [List.foldlM_cons]
      simp only [nestingItems, sortedItems, Nat.max_le, List.reverse_cons, List.append_assoc,
        List.singleton_append]
      -- one item that is too deep ends the fold
      by_cases hv : nesting v ≤ d
      · simp only [hv, if_true, true_and]
        exact ih _
      · simp [hv]

/-- The same of an object. A later member takes the place of an earlier one of its name. -/
theorem foldlM_members (d : Nat) (acc : Table Json) (ms : List (String × Json)) :
    ms.foldlM (fun acc m => if nesting m.2 ≤ d then some (Table.insert m.1 m.2.sorted acc)
        else none) acc
      = if nestingMembers ms ≤ d then
          some ((sortedMembers ms).foldl (fun t p => Table.insert p.1 p.2 t) acc) else none := by
  induction ms generalizing acc with
  | nil => simp [nestingMembers, sortedMembers]
  | cons m ms ih =>
      obtain ⟨name, v⟩ := m
      rw [List.foldlM_cons]
      simp only [nestingMembers, sortedMembers, Nat.max_le, List.foldl_cons]
      by_cases hv : nesting v ≤ d
      · simp only [hv, if_true, true_and]
        exact ih _
      · simp [hv]

section Values

variable {ws cs rest : List Char}

/-- An integer that fits is told by its sign and its digits. -/
theorem wholeNumber_natAbs {i : Int} (h : Fits i) :
    i.natAbs < wordLimit ∧ (0 ≤ i → wholeNumber false i.natAbs = .int i)
      ∧ (i < 0 → wholeNumber true i.natAbs = .int i) := by
  obtain ⟨hlow, hhigh⟩ := h
  refine ⟨?_, ?_, ?_⟩
  · unfold wordLimit
    omega
  · intro hpos
    show Json.Number.int (i.natAbs : Int) = _
    rw [Int.natAbs_of_nonneg hpos]
  · intro hneg
    have habs : -(i.natAbs : Int) = i := by omega
    unfold wholeNumber
    rw [if_neg (by simp), if_pos (by omega), habs]

/-- Reads one more item of an array. -/
def itemReader (depth : Nat) (acc : List Json) (c : Cursor) :
    Except Json.Error (List Json × Cursor) := do
  let (v, c) ← readValue depth c
  return (v :: acc, c)

/-- Reads one more member of an object. -/
def memberReader (depth : Nat) (acc : Table Json) (name : String) (c : Cursor) :
    Except Json.Error (Table Json × Cursor) := do
  let (v, c) ← readValue depth (← readColon c)
  return (Table.insert name v acc, c)

/-- The depth of a reader is used up by containers. -/
theorem readValue_tooDeep {x : Char} (hx : x = '[' ∨ x = '{') (hws : Blank ws) (p : Position) :
    Yields (readValue 1 ⟨ws ++ x :: rest, p⟩) none rest := by
  have hblank : Cursor.isBlank x = false := by rcases hx with rfl | rfl <;> decide
  -- the last level is used up by the bracket itself
  obtain ⟨q, hq⟩ := skipBlanks_cons hws hblank p rest
  refine ⟨.fault .tooDeep (Cursor.after ⟨x :: rest, q⟩), ?_⟩
  rw [readValue.eq_def]
  simp only [hq]
  rcases hx with rfl | rfl <;> rfl

/-- An array is a row of items, each read one level deeper. -/
theorem readValue_array {items : List Json} {body : List Char} (d : Nat) (hws : Blank ws)
    (hrow : Row (Padded Renders) body items)
    (htakes : TakesItem (itemReader (d + 1))
      fun acc v => if nesting v ≤ d then some (v.sorted :: acc) else none) (p : Position) :
    Yields (readValue (d + 2) ⟨ws ++ '[' :: (body ++ ']' :: rest), p⟩)
      (if nestingItems items ≤ d then some (.array (sortedItems items)) else none) rest := by
  obtain ⟨q, hq⟩ := skipBlanks_cons hws (x := '[') (by decide) p (body ++ ']' :: rest)
  have hloop : Yields (readItems (itemReader (d + 1)) _ true [] ⟨body ++ ']' :: rest, q.past '['⟩)
      _ (']' :: rest) := readItems_ahead htakes (.row hrow) (Nat.lt_succ_self _) [] _
  have hclose := hloop.close fun items => Json.array items.reverse
  rw [foldlM_items, List.append_nil, apply_ite (Option.map _)] at hclose
  simp only [Option.map_some, List.reverse_reverse, Option.map_none] at hclose
  rw [readValue.eq_def]
  simp only [hq]
  exact hclose

/-- An object is a row of members, likewise. -/
theorem readValue_object {ms : List (String × Json)} {body : List Char} (d : Nat) (hws : Blank ws)
    (hrow : Row (Padded (Paired Renders)) body ms)
    (htakes : TakesMember (memberReader (d + 1))
      fun acc m => if nesting m.2 ≤ d then some (Table.insert m.1 m.2.sorted acc) else none)
    (p : Position) :
    Yields (readValue (d + 2) ⟨ws ++ '{' :: (body ++ '}' :: rest), p⟩)
      (if nestingMembers ms ≤ d then some (.object (Table.ofList (sortedMembers ms))) else none)
      rest := by
  obtain ⟨q, hq⟩ := skipBlanks_cons hws (x := '{') (by decide) p (body ++ '}' :: rest)
  have hloop : Yields
      (readMembers (memberReader (d + 1)) _ true [] ⟨body ++ '}' :: rest, q.past '{'⟩) _
      ('}' :: rest) := readMembers_ahead htakes (.row hrow) (Nat.lt_succ_self _) [] _
  have hclose := hloop.close Json.object
  rw [foldlM_members, apply_ite (Option.map _)] at hclose
  simp only [Option.map_some, Option.map_none] at hclose
  rw [readValue.eq_def]
  simp only [hq]
  exact hclose

/-- What is no container is read at any depth. -/
theorem readValue_scalar {v : Json} (h : Renders cs v) (depth : Nat) (hws : Blank ws)
    (hrest : EndsInteger rest) (p : Position) (hscalar : nesting v = 0) :
    Yields (readValue depth ⟨ws ++ (cs ++ rest), p⟩) (some v.sorted) rest := by
  cases h with
  | @named x word _ hnamed =>
      have hx : Cursor.isBlank x = false := by cases hnamed <;> decide
      obtain ⟨q, hq⟩ := skipBlanks_cons hws hx p (word ++ rest)
      obtain ⟨q', hq'⟩ := expectWord_append word rest (q.past x)
      refine ⟨q', ?_⟩
      rw [readValue.eq_def, List.cons_append]
      simp only [hq, Cursor.next]
      cases hnamed <;> simp only [hq', if_true] <;> rfl
  | @int i hi =>
      obtain ⟨hword, hpos, hneg⟩ := wholeNumber_natAbs hi
      -- a sign is read before the digits, so the two cases are read in two ways
      rcases toString_int_cases i with ⟨hsign, htext⟩ | ⟨hsign, htext⟩
      · obtain ⟨x, ds, hds, hx, -⟩ := toDigits_cons i.natAbs
        obtain ⟨q, hq⟩ := skipBlanks_cons hws (isBlank_of_isDigit hx) p (ds ++ rest)
        obtain ⟨q', hq'⟩ := readNumber_digits false hword hrest q
        refine ⟨q', ?_⟩
        rw [hpos hsign, hds, List.cons_append] at hq'
        rw [htext, hds, List.cons_append, readValue.eq_def]
        simp only [hq, hq', hx, if_true, ne_of_isDigit hx (x := 'n') (by decide),
          ne_of_isDigit hx (x := 't') (by decide), ne_of_isDigit hx (x := 'f') (by decide),
          ne_of_isDigit hx (x := '-') (by decide), if_false]
        rfl
      · obtain ⟨q, hq⟩ := skipBlanks_cons hws (x := '-') (by decide) p
          (Nat.toDigits 10 i.natAbs ++ rest)
        obtain ⟨q', hq'⟩ := readNumber_digits true hword hrest (q.past '-')
        refine ⟨q', ?_⟩
        rw [hneg hsign] at hq'
        rw [htext, List.cons_append, readValue.eq_def]
        simp only [hq, Cursor.next, hq']
        rfl
  | @string s _ hs =>
      obtain ⟨ds, hds, hread⟩ := readString_quoted hs rest
      obtain ⟨q, hq⟩ := skipBlanks_cons hws (x := '"') (by decide) p ds
      obtain ⟨q', hq'⟩ := hread (q.past '"')
      refine ⟨q', ?_⟩
      rw [hds, readValue.eq_def]
      simp only [hq, Cursor.next, hq']
      rfl
  | array _ => exact absurd hscalar (by simp [nesting])
  | object _ => exact absurd hscalar (by simp [nesting])

/-- **Every text of a value is read to its end**, as deep as the reader may go. -/
theorem readValue_renders {v : Json} (h : Renders cs v) (d : Nat) (hws : Blank ws)
    (hrest : EndsInteger rest) (p : Position) :
    Yields (readValue (d + 1) ⟨ws ++ (cs ++ rest), p⟩)
      (if nesting v ≤ d then some v.sorted else none) rest := by
  -- a container leaves one level less to what it holds
  induction d generalizing v cs ws rest p with
  | zero =>
      by_cases hscalar : nesting v = 0
      · rw [if_pos (by omega)]
        exact readValue_scalar h _ hws hrest p hscalar
      rw [if_neg (by omega)]
      cases h with
      | array _ => exact readValue_tooDeep (.inl rfl) hws p
      | object _ => exact readValue_tooDeep (.inr rfl) hws p
      | named h => cases h <;> exact absurd rfl hscalar
      | _ => exact absurd rfl hscalar
  | succ d ih =>
      by_cases hscalar : nesting v = 0
      · rw [if_pos (by omega)]
        exact readValue_scalar h _ hws hrest p hscalar
      cases h with
      | @array items body hrow =>
          have htakes : TakesItem (itemReader (d + 1))
              fun acc v => if nesting v ≤ d then some (v.sorted :: acc) else none := by
            intro w cs rest acc p hcs hends
            have hread := (ih hcs blank_nil hends p).map (· :: acc)
            rw [apply_ite (Option.map _)] at hread
            exact hread
          simp only [nesting, Nat.add_le_add_iff_right, sorted, List.cons_append,
            List.append_assoc, List.nil_append]
          exact readValue_array d hws hrow htakes p
      | @object ms body hrow =>
          have htakes : TakesMember (memberReader (d + 1)) fun acc m =>
              if nesting m.2 ≤ d then some (Table.insert m.1 m.2.sorted acc) else none := by
            intro m before after cs rest acc p hbefore hafter hcs hends
            obtain ⟨q, hq⟩ := readColon_append hbefore p (after ++ (cs ++ rest))
            have hread := (ih hcs hafter hends q).map fun v => Table.insert m.1 v acc
            rw [apply_ite (Option.map _)] at hread
            unfold memberReader
            rw [hq]
            exact hread
          simp only [nesting, Nat.add_le_add_iff_right, sorted, List.cons_append,
            List.append_assoc, List.nil_append]
          exact readValue_object d hws hrow htakes p
      | named h => cases h <;> exact absurd rfl hscalar
      | _ => exact absurd rfl hscalar

end Values

/-! ## Writing -/

mutual

/-- All numbers of a value are integers that fit. -/
def Integral : Json → Prop
  | .number (.int i) => Fits i
  | .number (.real _) => False
  | .array items => IntegralItems items
  | .object members => IntegralMembers members
  | _ => True

/-- `Integral` for every item. -/
def IntegralItems : List Json → Prop
  | [] => True
  | v :: rest => Integral v ∧ IntegralItems rest

/-- `Integral` for the value of every member. -/
def IntegralMembers : List (String × Json) → Prop
  | [] => True
  | (_, v) :: rest => Integral v ∧ IntegralMembers rest

end

/-- What is written has no blanks. -/
theorem Padded.bare {α : Type} {R : List Char → α → Prop} {cs : List Char} {a : α} (h : R cs a) :
    Padded R cs a := by
  simpa using Padded.mk blank_nil h blank_nil

theorem Row.tail {α : Type} {R : List Char → α → Prop} {cs : List Char} {a : α} {as : List α}
    (h : Row R cs (a :: as)) : Tail R (',' :: cs) (a :: as) := by
  cases h with
  | cons ha has => exact .cons ha has

theorem Row.one {α : Type} {R : List Char → α → Prop} {cs : List Char} {a : α} (h : R cs a) :
    Row R cs [a] := by
  simpa using Row.cons h .nil

mutual

/-- **What is written for a value is one of its texts.** -/
theorem write_renders : (v : Json) → Integral v → Renders v.write.toList v
  | .null, _ => .named .null
  | .bool true, _ => .named .true
  | .bool false, _ => .named .false
  | .number (.int _), h => .int h
  | .string s, _ => .string (writeString_quoted s)
  | .array items, h => by
      simpa [write] using Renders.array (writeItems_row items h)
  | .object members, h => by
      simpa [write] using Renders.object (writeMembers_row members h)

theorem writeItems_row : (vs : List Json) → IntegralItems vs →
    Row (Padded Renders) (writeItems vs).toList vs
  | [], _ => .nil blank_nil
  | [v], h => .one (.bare (write_renders v h.1))
  | v :: w :: vs, h => by
      have hrest := (writeItems_row (w :: vs) h.2).tail
      simpa [writeItems] using Row.cons (.bare (write_renders v h.1)) hrest

theorem writeMembers_row : (ms : List (String × Json)) → IntegralMembers ms →
    Row (Padded (Paired Renders)) (writeMembers ms).toList ms
  | [], _ => .nil blank_nil
  | [(n, v)], h => by
      have hpair := Paired.mk (writeString_quoted n) blank_nil blank_nil (write_renders v h.1)
      simpa [writeMembers] using Row.one (.bare hpair)
  | (n, v) :: m :: ms, h => by
      have hpair := Paired.mk (writeString_quoted n) blank_nil blank_nil (write_renders v h.1)
      have hrest := (writeMembers_row (m :: ms) h.2).tail
      simpa [writeMembers] using Row.cons (.bare hpair) hrest

end

end LiveLink.Proofs
