import LiveLink.Proofs.Renderings

/-!
# Values that are skipped

A value nobody asked for is skipped without being kept, and to any depth: the reader
holds the containers it is in on a list and has no nesting of its own. `skipRest` is
where it is between two values of that list. The argument is that a text of a value
takes the reader from in front of it to the place behind it, with the list as it was
(`skipOpened_renders`); what lies in between is gone through by the same fact for the
texts inside, which are shorter.
-/

namespace LiveLink.Proofs

open LiveLink Json

variable {ws ws' cs rest : List Char} {n : Nat} {opened outer : List Opened}

/-- Skipping goes on behind a value, or in front of the first one of a container. -/
def skipRest (n : Nat) (fresh : Bool) (opened : List Opened) (c : Cursor) :
    Except Json.Error Cursor :=
  match skipBetween (c.rest.length + 1) fresh opened c with
  | .error e => .error e
  | .ok ([], c) => .ok c
  | .ok (.array :: outer, c) => skipOpened n (.array :: outer) c
  | .ok (.object :: outer, c) =>
    match skipName c with
    | .error e => .error e
    | .ok c => skipOpened n (.object :: outer) c

theorem skipRest_nil (n : Nat) (fresh : Bool) (c : Cursor) : skipRest n fresh [] c = .ok c := by
  unfold skipRest
  rw [skipBetween]

/-! ## Between values -/

theorem length_skipFrom (p : Position) (cs : List Char) :
    (Cursor.skipFrom p cs).rest.length ≤ cs.length := by
  induction cs generalizing p with
  | nil => exact Nat.le_refl _
  | cons c cs ih =>
      rw [Cursor.skipFrom]
      split
      · exact Nat.le_succ_of_le (ih _)
      · exact Nat.le_refl _

/-- Brackets that close are no more than the characters left. -/
theorem skipBetween_enough {fresh : Bool} {c : Cursor} {m : Nat} (hn : c.rest.length < n)
    (hm : c.rest.length < m) : skipBetween n fresh opened c = skipBetween m fresh opened c := by
  induction n generalizing m fresh opened c with
  | zero => omega
  | succ n ih =>
      obtain ⟨m, rfl⟩ := Nat.exists_eq_add_one_of_ne_zero (Nat.ne_zero_of_lt hm)
      have hskip : c.skipBlanks.rest.length ≤ c.rest.length := length_skipFrom c.place c.rest
      -- a bracket was passed, so less is left for either bound
      have hnext : ∀ x xs, c.skipBlanks.rest = x :: xs → ∀ outer,
          skipBetween n false outer c.skipBlanks.next
            = skipBetween m false outer c.skipBlanks.next := by
        intro x xs hcons outer
        have hlength : c.skipBlanks.next.rest.length = xs.length := by
          simp only [Cursor.next, hcons]
        rw [hcons, List.length_cons] at hskip
        exact ih (by omega) (by omega)
      cases opened with
      | nil => rfl
      | cons o outer =>
          cases o <;>
          · rw [skipBetween, skipBetween]
            split
            · rfl
            · rename_i x xs hcons
              rw [hnext x xs hcons]

/-- The bracket that closes a container. -/
def closing : Opened → Char
  | .array => ']'
  | .object => '}'

/-- A closing bracket leaves one container less. -/
theorem skipRest_close (n : Nat) (o : Opened) (outer : List Opened) (fresh : Bool) (hws : Blank ws)
    (p : Position) (rest : List Char) :
    ∃ q, skipRest n fresh (o :: outer) ⟨ws ++ closing o :: rest, p⟩
      = skipRest n false outer ⟨rest, q⟩ := by
  have hblank : Cursor.isBlank (closing o) = false := by cases o <;> decide
  obtain ⟨q, hq⟩ := skipBlanks_cons hws hblank p rest
  refine ⟨q.past (closing o), ?_⟩
  have hbetween : skipBetween ((ws ++ closing o :: rest).length + 1) fresh (o :: outer)
      ⟨ws ++ closing o :: rest, p⟩
        = skipBetween (rest.length + 1) false outer ⟨rest, q.past (closing o)⟩ := by
    -- any bound beyond what is left gives the same
    have henough : skipBetween (ws ++ closing o :: rest).length false outer
        ⟨rest, q.past (closing o)⟩
          = skipBetween (rest.length + 1) false outer ⟨rest, q.past (closing o)⟩ :=
      skipBetween_enough (by simp; omega) (Nat.lt_succ_self _)
    cases o <;>
    · rw [skipBetween, hq]
      exact henough
  unfold skipRest
  rw [hbetween]

/-- In front of the next value of an array. -/
theorem skipRest_item (n : Nat) (outer : List Opened) {first : Bool} (hlead : Lead first ws)
    (hcs : Begins cs) (p : Position) (rest : List Char) :
    ∃ ws' q, Blank ws' ∧ ws'.length ≤ ws.length
      ∧ skipRest n first (.array :: outer) ⟨ws ++ (cs ++ rest), p⟩
        = skipOpened n (.array :: outer) ⟨ws' ++ (cs ++ rest), q⟩ := by
  obtain ⟨x, xs, rfl, hx, hclose⟩ := hcs
  cases hlead with
  | first hws =>
      obtain ⟨q, hq⟩ := skipBlanks_cons hws hx p (xs ++ rest)
      refine ⟨[], q, blank_nil, Nat.zero_le _, ?_⟩
      unfold skipRest
      rw [skipBetween]
      simp only [List.cons_append, List.nil_append, hq, hclose, if_false, if_true,
        Bool.true_eq_false, and_false]
  | @comma before after hbefore hafter =>
      obtain ⟨q, hq⟩ := skipBlanks_cons hbefore (x := ',') (by decide) p
        (after ++ (x :: xs ++ rest))
      refine ⟨after, q.past ',', hafter, by simp; omega, ?_⟩
      simp only [List.append_assoc, List.cons_append] at hq ⊢
      unfold skipRest
      rw [skipBetween, hq]
      rfl

theorem skipName_quoted {name : String} {ns mid : List Char} (hws : Blank ws)
    (hns : Quoted name ns) (hmid : Blank mid) (p : Position) (rest : List Char) :
    ∃ q, skipName ⟨ws ++ (ns ++ (mid ++ ':' :: rest)), p⟩ = .ok ⟨rest, q⟩ := by
  obtain ⟨ds, hds, hskip⟩ := skipString_quoted hns (mid ++ ':' :: rest)
  obtain ⟨q, hq⟩ := skipBlanks_cons hws (x := '"') (by decide) p ds
  obtain ⟨q', hq'⟩ := hskip (q.past '"')
  obtain ⟨q'', hq''⟩ := readColon_append hmid q' rest
  refine ⟨q'', ?_⟩
  unfold skipName
  rw [hds, hq]
  change (skipString ⟨ds, q.past '"'⟩ >>= readColon) = _
  rw [hq']
  exact hq''

theorem skipRest_of_name {fresh : Bool} {c c' c'' : Cursor}
    (hbetween : skipBetween (c.rest.length + 1) fresh opened c = .ok (.object :: outer, c'))
    (hname : skipName c' = .ok c'') :
    skipRest n fresh opened c = skipOpened n (.object :: outer) c'' := by
  unfold skipRest
  rw [hbetween]
  simp only [hname]

/-- In front of the next member of an object. -/
theorem skipRest_member (n : Nat) (outer : List Opened) {first : Bool} {name : String}
    {ns mid : List Char} (hlead : Lead first ws) (hns : Quoted name ns) (hmid : Blank mid)
    (p : Position) (rest : List Char) :
    ∃ q, skipRest n first (.object :: outer) ⟨ws ++ (ns ++ (mid ++ ':' :: rest)), p⟩
      = skipOpened n (.object :: outer) ⟨rest, q⟩ := by
  cases hlead with
  | first hws =>
      obtain ⟨ds, hds, -⟩ := skipString_quoted hns (mid ++ ':' :: rest)
      obtain ⟨q, hq⟩ := skipBlanks_cons hws (x := '"') (by decide) p ds
      obtain ⟨q', hq'⟩ := skipName_quoted blank_nil hns hmid q rest
      rw [List.nil_append, hds] at hq'
      rw [hds]
      refine ⟨q', skipRest_of_name ?_ hq'⟩
      rw [skipBetween, hq]
      rfl
  | @comma before after hbefore hafter =>
      obtain ⟨q, hq⟩ := skipBlanks_cons hbefore (x := ',') (by decide) p
        (after ++ (ns ++ (mid ++ ':' :: rest)))
      obtain ⟨q', hq'⟩ := skipName_quoted hafter hns hmid (q.past ',') rest
      simp only [List.append_assoc, List.cons_append]
      refine ⟨q', skipRest_of_name ?_ hq'⟩
      rw [skipBetween, hq]
      rfl

/-! ## Rows -/

/-- Skipping has come behind a text, with enough of its bound left for what remains. -/
def Resumes (n : Nat) (opened : List Opened) (rest : List Char) (r : Except Json.Error Cursor) :
    Prop :=
  ∃ m q, m ≤ n ∧ rest.length < m ∧ r = skipRest m false opened ⟨rest, q⟩

/-- Texts are skipped within a bound. -/
def Skips (n : Nat) : Prop :=
  ∀ {v : Json} {cs ws rest : List Char} (opened : List Opened) (p : Position), Renders cs v →
    Blank ws → EndsInteger rest → (ws ++ (cs ++ rest)).length < n →
    Resumes n opened rest (skipOpened n opened ⟨ws ++ (cs ++ rest), p⟩)

theorem skipRest_items {vs : List Json} {first : Bool} (hskips : ∀ m ≤ n, Skips m)
    (h : Ahead Renders ']' rest first cs vs) (hn : cs.length < n) (p : Position) :
    Resumes n outer rest (skipRest n first (.array :: outer) ⟨cs, p⟩) := by
  induction vs generalizing first cs n p with
  | nil =>
      obtain ⟨ws, hws, rfl⟩ := h.nil
      obtain ⟨q, hq⟩ := skipRest_close n .array outer first hws p rest
      simp only [List.length_append, List.length_cons] at hn
      exact ⟨n, q, Nat.le_refl _, by omega, hq⟩
  | cons v vs ih =>
      obtain ⟨lead, text, more, hlead, htext, hmore, rfl⟩ := h.cons
      obtain ⟨ws, q, hws, hle, hq⟩ := skipRest_item n outer hlead htext.begins p more
      -- what is left gets shorter, so the bound lasts
      have hlong : (ws ++ (text ++ more)).length < n := by
        simp only [List.length_append] at hn ⊢
        omega
      obtain ⟨m, q', hm, hleft, heq⟩ := hskips n (Nat.le_refl _) (.array :: outer) q htext hws
        (hmore.endsInteger (endsInteger_cons (by decide))) hlong
      obtain ⟨m', q'', hm', hleft', heq'⟩ := ih (fun k hk => hskips k (Nat.le_trans hk hm)) hmore
        hleft q'
      exact ⟨m', q'', Nat.le_trans hm' hm, hleft', by rw [hq, heq, heq']⟩

theorem skipRest_members {ms : List (String × Json)} {first : Bool} (hskips : ∀ m ≤ n, Skips m)
    (h : Ahead (Paired Renders) '}' rest first cs ms) (hn : cs.length < n) (p : Position) :
    Resumes n outer rest (skipRest n first (.object :: outer) ⟨cs, p⟩) := by
  induction ms generalizing first cs n p with
  | nil =>
      obtain ⟨ws, hws, rfl⟩ := h.nil
      obtain ⟨q, hq⟩ := skipRest_close n .object outer first hws p rest
      simp only [List.length_append, List.length_cons] at hn
      exact ⟨n, q, Nat.le_refl _, by omega, hq⟩
  | cons m ms ih =>
      obtain ⟨lead, _, more, hlead, hpair, hmore, rfl⟩ := h.cons
      obtain @⟨name, v, ns, before, after, text, hns, hbefore, hafter, htext⟩ := hpair
      simp only [List.append_assoc, List.cons_append] at hn ⊢
      obtain ⟨q, hq⟩ := skipRest_member n outer hlead hns hbefore p (after ++ (text ++ more))
      have hlong : (after ++ (text ++ more)).length < n := by
        simp only [List.length_append, List.length_cons] at hn ⊢
        omega
      obtain ⟨k, q', hk, hleft, heq⟩ := hskips n (Nat.le_refl _) (.object :: outer) q htext hafter
        (hmore.endsInteger (endsInteger_cons (by decide))) hlong
      obtain ⟨k', q'', hk', hleft', heq'⟩ := ih (fun j hj => hskips j (Nat.le_trans hj hk)) hmore
        hleft q'
      exact ⟨k', q'', Nat.le_trans hk' hk, hleft', by rw [hq, heq, heq']⟩

/-! ## Values -/

/-- What is no container is skipped in one step. -/
theorem skipOpened_scalar {v : Json} (h : Renders cs v) (hscalar : nesting v = 0)
    (opened : List Opened) (n : Nat) (hws : Blank ws) (hrest : EndsInteger rest) (p : Position) :
    ∃ q, skipOpened (n + 1) opened ⟨ws ++ (cs ++ rest), p⟩
      = skipRest n false opened ⟨rest, q⟩ := by
  cases h with
  | @named x word _ hnamed =>
      have hx : Cursor.isBlank x = false := by cases hnamed <;> decide
      obtain ⟨q, hq⟩ := skipBlanks_cons hws hx p (word ++ rest)
      obtain ⟨q', hq'⟩ := expectWord_append word rest (q.past x)
      refine ⟨q', ?_⟩
      rw [skipOpened.eq_def, List.cons_append]
      simp only [hq, Cursor.next]
      cases hnamed <;> simp only [hq', if_true] <;> rfl
  | @int i _ =>
      rcases toString_int_cases i with ⟨-, htext⟩ | ⟨-, htext⟩
      · obtain ⟨x, ds, hds, hx, -⟩ := toDigits_cons i.natAbs
        obtain ⟨q, hq⟩ := skipBlanks_cons hws (isBlank_of_isDigit hx) p (ds ++ rest)
        obtain ⟨q', hq'⟩ := skipNumber_digits (n := i.natAbs) hrest q
        refine ⟨q', ?_⟩
        rw [hds, List.cons_append] at hq'
        rw [htext, hds, List.cons_append, skipOpened.eq_def]
        simp only [hq, hq', hx, if_true, ne_of_isDigit hx (x := 'n') (by decide),
          ne_of_isDigit hx (x := 't') (by decide), ne_of_isDigit hx (x := 'f') (by decide),
          ne_of_isDigit hx (x := '-') (by decide), if_false]
        rfl
      · obtain ⟨q, hq⟩ := skipBlanks_cons hws (x := '-') (by decide) p
          (Nat.toDigits 10 i.natAbs ++ rest)
        obtain ⟨q', hq'⟩ := skipNumber_digits (n := i.natAbs) hrest (q.past '-')
        refine ⟨q', ?_⟩
        rw [htext, List.cons_append, skipOpened.eq_def]
        simp only [hq, Cursor.next, hq']
        rfl
  | @string s _ hs =>
      obtain ⟨ds, hds, hskip⟩ := skipString_quoted hs rest
      obtain ⟨q, hq⟩ := skipBlanks_cons hws (x := '"') (by decide) p ds
      obtain ⟨q', hq'⟩ := hskip (q.past '"')
      refine ⟨q', ?_⟩
      rw [hds, skipOpened.eq_def]
      simp only [hq, Cursor.next, hq']
      rfl
  | array _ => exact absurd hscalar (by simp [nesting])
  | object _ => exact absurd hscalar (by simp [nesting])

/-- **Every text of a value is skipped to its end**, whatever containers it lies in. -/
theorem skips (n : Nat) : Skips n := by
  induction n using Nat.strongRecOn with
  | ind n ih =>
      intro v cs ws rest opened p h hws hrest hn
      obtain ⟨n, rfl⟩ := Nat.exists_eq_add_one_of_ne_zero (Nat.ne_zero_of_lt hn)
      -- the items of a container are shorter texts; one level of the bound is used up here
      have hshorter : ∀ m ≤ n, Skips m := fun m hm => ih m (Nat.lt_succ_of_le hm)
      obtain ⟨x, xs, hbegin, -, -⟩ := h.begins
      by_cases hscalar : nesting v = 0
      · obtain ⟨q, hq⟩ := skipOpened_scalar h hscalar opened n hws hrest p
        rw [hbegin] at hn
        simp only [List.length_append, List.length_cons] at hn
        exact ⟨n, q, Nat.le_succ n, by omega, hq⟩
      cases h with
      | @array items body hrow =>
          obtain ⟨q, hq⟩ := skipBlanks_cons hws (x := '[') (by decide) p (body ++ ']' :: rest)
          simp only [List.cons_append, List.append_assoc, List.nil_append] at hn ⊢
          simp only [List.length_append, List.length_cons] at hn
          obtain ⟨m, q', hm, hlong, heq⟩ : Resumes n opened rest
              (skipRest n true (.array :: opened) ⟨body ++ ']' :: rest, q.past '['⟩) :=
            skipRest_items hshorter (.row hrow)
              (by simp only [List.length_append, List.length_cons]; omega) _
          refine ⟨m, q', Nat.le_succ_of_le hm, hlong, ?_⟩
          rw [skipOpened.eq_def]
          simp only [hq]
          exact heq
      | @object ms body hrow =>
          obtain ⟨q, hq⟩ := skipBlanks_cons hws (x := '{') (by decide) p (body ++ '}' :: rest)
          simp only [List.cons_append, List.append_assoc, List.nil_append] at hn ⊢
          simp only [List.length_append, List.length_cons] at hn
          obtain ⟨m, q', hm, hlong, heq⟩ : Resumes n opened rest
              (skipRest n true (.object :: opened) ⟨body ++ '}' :: rest, q.past '{'⟩) :=
            skipRest_members hshorter (.row hrow)
              (by simp only [List.length_append, List.length_cons]; omega) _
          refine ⟨m, q', Nat.le_succ_of_le hm, hlong, ?_⟩
          rw [skipOpened.eq_def]
          simp only [hq]
          exact heq
      | named h => cases h <;> exact absurd rfl hscalar
      | _ => exact absurd rfl hscalar

/-- **A value of any depth is skipped.** -/
theorem skipValue_renders {v : Json} (h : Renders cs v) (hws : Blank ws) (hrest : EndsInteger rest)
    (p : Position) : ∃ q, skipValue ⟨ws ++ (cs ++ rest), p⟩ = .ok ⟨rest, q⟩ := by
  obtain ⟨m, q, -, -, hq⟩ := skips _ [] p h hws hrest (Nat.lt_succ_self _)
  exact ⟨q, hq.trans (skipRest_nil _ _ _)⟩

end LiveLink.Proofs
