import LiveLink.Proofs.Outcomes
import LiveLink.Proofs.QueryPairs
import LiveLink.Url.Reader

/-!
# The token in a URL

The token stands among the pairs of the query, in place of all pairs of its key, and the URL is
sent as text. So two things have to hold: the pairs are read back from the query that is written
(`readPairs_writePairs`), and the text is cut again where the query was put in.

For the second, `WellWritten` says what is true of every URL that has been read: no part that is
written before the query has a question mark or a number sign (`Whole`), and the fragment is
encoded already. Hence, whatever the token is, the text of the URL with the token begins like
that of the URL without it, and its query and its fragment are read as they are
(`token_parameter`).
-/

namespace LiveLink.Proofs

open LiveLink Url

/-! ## Parts before the query -/

/-- No character starts a query or a fragment. -/
def Whole (cs : List Char) : Prop := ∀ c ∈ cs, c ≠ '?' ∧ c ≠ '#'

instance (cs : List Char) : Decidable (Whole cs) :=
  List.decidableBAll (fun c => c ≠ '?' ∧ c ≠ '#') cs

theorem Whole.append {a b : List Char} (ha : Whole a) (hb : Whole b) : Whole (a ++ b) :=
  List.forall_mem_append.mpr ⟨ha, hb⟩

theorem Whole.cons {c : Char} {cs : List Char} (hc : c ≠ '?' ∧ c ≠ '#') (h : Whole cs) :
    Whole (c :: cs) :=
  List.forall_mem_cons.mpr ⟨hc, h⟩

theorem Whole.subset {a b : List Char} (h : Whole b) (hsub : a ⊆ b) : Whole a :=
  fun c hc => h c (hsub hc)

/-- The characters that a query spells a pair with are not among its signs. -/
theorem whole_of_isComponentChar {c : Char} (h : isComponentChar c = true) : c ≠ '?' ∧ c ≠ '#' :=
  ⟨ne_of_class h (by decide), ne_of_class h (by decide)⟩

theorem isComponentChar_of_isAlphanum {c : Char} (h : c.isAlphanum = true) :
    isComponentChar c = true := by
  simp [isComponentChar, isPairChar, h]

/-- A digit of any base. Beyond the last one the library writes a star. -/
theorem whole_digitChar (n : Nat) : Nat.digitChar n ≠ '?' ∧ Nat.digitChar n ≠ '#' := by
  have hsmall : ∀ n < 16, Nat.digitChar n ≠ '?' ∧ Nat.digitChar n ≠ '#' := by decide
  by_cases hn : n < 16
  · exact hsmall n hn
  · -- `digitChar` is a chain of tests for the sixteen digits
    have hstar : Nat.digitChar n = '*' := by
      unfold Nat.digitChar
      repeat rw [if_neg (by omega)]
    rw [hstar]
    decide

theorem whole_toDigitsCore (base fuel n : Nat) {ds : List Char} (h : Whole ds) :
    Whole (Nat.toDigitsCore base fuel n ds) := by
  induction fuel generalizing n ds with
  | zero => exact h
  | succ fuel ih =>
      have hds := h.cons (whole_digitChar (n % base))
      rw [Nat.toDigitsCore]
      split
      · exact hds
      · exact ih _ hds

theorem whole_toDigits (base n : Nat) : Whole (Nat.toDigits base n) :=
  whole_toDigitsCore base _ n fun _ hc => absurd hc List.not_mem_nil

theorem whole_digits (n : Nat) : Whole (Layout.digits n).toList := by
  rw [Layout.digits, String.toList_ofList]
  exact whole_toDigits 10 n

/-- Pieces are joined by a sign that is neither of the two. -/
theorem whole_intercalate {sep : Char} {pieces : List (List Char)} (hsep : sep ≠ '?' ∧ sep ≠ '#')
    (h : ∀ p ∈ pieces, Whole p) : Whole (List.intercalate [sep] pieces) := by
  intro c hc
  obtain rfl | ⟨p, hp, hc⟩ := mem_intercalate hc
  · exact hsep
  · exact h p hp c hc

/-! ## Percent encoding -/

/-- Whether a character does not stand for itself where those of a set are encoded. -/
def isEncoded (set : Char → Bool) (c : Char) : Bool :=
  c.toNat < 0x20 || 0x7e < c.toNat || set c

theorem percentEncode_eq (set : Char → Bool) (cs : List Char) :
    percentEncode set cs = cs.flatMap fun c =>
      if isEncoded set c then (String.utf8EncodeChar c).flatMap percentByte else [c] := rfl

theorem isComponentChar_of_percentByte {b : UInt8} {c : Char} (h : c ∈ percentByte b) :
    isComponentChar c = true := by
  obtain rfl | hpair := mem_percentByte h
  · decide
  · exact isComponentChar_of_isPairChar hpair

/-- A character of an encoded text stood in it before and is not in the set, or it comes from an
escape. -/
theorem mem_percentEncode {set : Char → Bool} {cs : List Char} {c : Char}
    (h : c ∈ percentEncode set cs) :
    (c ∈ cs ∧ isEncoded set c = false) ∨ isComponentChar c = true := by
  rw [percentEncode_eq, List.mem_flatMap] at h
  obtain ⟨d, hd, hc⟩ := h
  split at hc
  · obtain ⟨b, -, hb⟩ := List.mem_flatMap.mp hc
    exact .inr (isComponentChar_of_percentByte hb)
  · rename_i hclean
    obtain rfl := List.mem_singleton.mp hc
    exact .inl ⟨hd, Bool.eq_false_iff.mpr hclean⟩

theorem percentEncode_of_clean {set : Char → Bool} {cs : List Char}
    (h : ∀ c ∈ cs, isEncoded set c = false) : percentEncode set cs = cs := by
  induction cs with
  | nil => rfl
  | cons c rest ih =>
      obtain ⟨hc, hrest⟩ := List.forall_mem_cons.mp h
      have ih := ih hrest
      rw [percentEncode_eq] at ih ⊢
      rw [List.flatMap_cons, ih, if_neg (Bool.eq_false_iff.mp hc), List.singleton_append]

/-- The characters of an escape are visible ones of ASCII. -/
theorem isComponentChar_bounds {c : Char} (h : isComponentChar c = true) :
    0x20 < c.toNat ∧ c.toNat < 0x7e := by
  simp only [isComponentChar, isPairChar, Bool.or_eq_true, decide_eq_true_eq] at h
  obtain (((((h | rfl) | rfl) | rfl) | rfl) | rfl) | rfl := h
  · have := alphanum_bounds h
    omega
  all_goals decide

/-- What is encoded stays as it is when it is encoded again. -/
theorem clean_percentEncode {set : Char → Bool}
    (hset : ∀ c, isComponentChar c = true → set c = false) (cs : List Char) :
    ∀ c ∈ percentEncode set cs, isEncoded set c = false := by
  intro c hc
  obtain ⟨-, hclean⟩ | hcomponent := mem_percentEncode hc
  · exact hclean
  · obtain ⟨hlow, hhigh⟩ := isComponentChar_bounds hcomponent
    simp [isEncoded, hset c hcomponent]
    omega

/-- A set that has the two signs leaves none of them. -/
theorem whole_percentEncode {set : Char → Bool} {cs : List Char}
    (h : ∀ c ∈ cs, set c = false → c ≠ '?' ∧ c ≠ '#') : Whole (percentEncode set cs) := by
  intro c hc
  obtain ⟨hmem, hclean⟩ | hcomponent := mem_percentEncode hc
  · exact h c hmem (Bool.or_eq_false_iff.mp hclean).2
  · exact whole_of_isComponentChar hcomponent

/-- Both signs are encoded in a segment of a path. -/
theorem whole_encodedSegment (cs : List Char) : Whole (percentEncode pathSet cs) := by
  refine whole_percentEncode fun c _ hc => ⟨?_, ?_⟩ <;> rintro rfl <;> exact absurd hc (by decide)

/-- Both signs are encoded in a user and in a password. -/
theorem whole_encodedUser (cs : List Char) : Whole (percentEncode userSet cs) := by
  refine whole_percentEncode fun c _ hc => ⟨?_, ?_⟩ <;> rintro rfl <;> exact absurd hc (by decide)

/-! ## Hosts -/

theorem whole_digit : ∀ n < 36, Domain.Punycode.digit n ≠ '?' ∧ Domain.Punycode.digit n ≠ '#' := by
  decide

/-- Distances are written in the digits of base 36, letters first. -/
theorem whole_writeDistance (bias q k : Nat) : Whole (Domain.Punycode.writeDistance bias q k) := by
  induction q, k using Domain.Punycode.writeDistance.induct bias with
  | case1 q k t ht =>
      have hlt : q < 36 := by
        have : t ≤ 26 := by simp only [t, Domain.Punycode.threshold]; omega
        omega
      rw [Domain.Punycode.writeDistance]
      simp only [t] at ht
      rw [dif_pos ht]
      exact Whole.cons (whole_digit q hlt) fun _ hc => absurd hc List.not_mem_nil
  | case2 q k t ht ih =>
      have hlt : t + (q - t) % (36 - t) < 36 := by
        have : t ≤ 26 := by simp only [t, Domain.Punycode.threshold]; omega
        have := Nat.mod_lt (q - t) (show 0 < 36 - t by omega)
        omega
      rw [Domain.Punycode.writeDistance]
      simp only [t] at ht
      rw [dif_neg ht]
      exact ih.cons (whole_digit _ hlt)

theorem whole_pass {w : Domain.Punycode.Writing} (h : Whole w.out) (turn : Nat) (c : Char) :
    Whole (w.pass turn c).out := by
  unfold Domain.Punycode.Writing.pass
  split
  · exact h
  · split
    · exact h.append (whole_writeDistance _ _ _)
    · exact h

theorem whole_insert {w : Domain.Punycode.Writing} (h : Whole w.out) (cs : List Char)
    (next turn : Nat) : Whole (Domain.Punycode.Writing.insert cs (w, next) turn).1.out := by
  have hfold : ∀ (ds : List Char) (w : Domain.Punycode.Writing), Whole w.out →
      Whole (ds.foldl (Domain.Punycode.Writing.pass turn) w).out := by
    intro ds
    induction ds with
    | nil => exact fun w hw => hw
    | cons d ds ih => exact fun w hw => ih _ (whole_pass hw turn d)
  exact hfold cs _ h

/-- The plain characters of a label are copied, and the others are written as digits behind a
hyphen. -/
theorem whole_punycode {cs : List Char} (h : Whole cs) : Whole (Domain.Punycode.encode cs) := by
  have hbase : Whole (cs.filter (·.toNat < 0x80)) := h.subset (List.filter_subset_self cs)
  have hfold : ∀ (turns : List Nat) (s : Domain.Punycode.Writing × Nat), Whole s.1.out →
      Whole (turns.foldl (Domain.Punycode.Writing.insert cs) s).1.out := by
    intro turns
    induction turns with
    | nil => exact fun s hs => hs
    | cons turn turns ih => exact fun s hs => ih _ (whole_insert hs cs s.2 turn)
  -- the turns only add to what the plain characters and the hyphen make
  refine hfold _ _ ?_
  show Whole (if _ then [] else _ ++ ['-'])
  split
  · exact fun _ hc => absurd hc List.not_mem_nil
  · exact hbase.append (Whole.cons (by decide) fun _ hc => absurd hc List.not_mem_nil)

theorem whole_written {label : List Char} (h : Whole label) : Whole (Domain.written label) := by
  unfold Domain.written
  split
  · exact h
  · have hmark : Whole Domain.asciiMark := by decide
    exact hmark.append (whole_punycode h)

/-- A domain name has no forbidden character, and what writes it in ASCII adds none. -/
theorem whole_domain {cs domain : List Char} (h : Domain.write? cs = some domain) :
    Whole domain := by
  unfold Domain.write? at h
  simp only [Option.bind_eq_bind, Option.bind_eq_some_iff] at h
  obtain ⟨mapped, -, labels, -, h⟩ := h
  split at h
  · exact absurd h (by simp)
  · rename_i hallowed
    split at h
    · exact absurd h (by simp)
    · obtain rfl := Option.some.inj h
      refine whole_intercalate (by decide) fun p hp => ?_
      obtain ⟨label, hlabel, rfl⟩ := List.mem_map.mp hp
      refine whole_written fun c hc => ?_
      have hclean : Domain.isForbidden c = false := by
        by_contra hbad
        have hbad := eq_true_of_ne_false hbad
        exact hallowed (List.any_eq_true.mpr ⟨label, hlabel, List.any_eq_true.mpr ⟨c, hc, hbad⟩⟩)
      constructor <;> rintro rfl <;> exact absurd hclean (by decide)

theorem whole_ipv4 (n : Nat) : Whole (Host.ipv4 n).write.toList := by
  rw [Host.write, writeIpv4, String.toList_intercalate]
  refine whole_intercalate (by decide) fun p hp => ?_
  simp only [List.map_map, List.mem_map] at hp
  obtain ⟨i, -, rfl⟩ := hp
  exact whole_digits _

theorem whole_hexPieces (ps : List Nat) : Whole (hexPieces ps).toList := by
  rw [hexPieces, String.toList_intercalate]
  refine whole_intercalate (by decide) fun p hp => ?_
  simp only [List.map_map, List.mem_map] at hp
  obtain ⟨n, -, rfl⟩ := hp
  rw [Function.comp_apply, String.toList_ofList]
  exact whole_toDigits 16 n

theorem whole_ipv6 (ps : List Nat) : Whole (Host.ipv6 ps).write.toList := by
  have haddress : Whole (writeIpv6 ps).toList := by
    unfold writeIpv6
    split
    · exact whole_hexPieces ps
    · have hgap : Whole "::".toList := by decide
      simp only [String.toList_append]
      exact ((whole_hexPieces _).append hgap).append (whole_hexPieces _)
  have hopen : Whole "[".toList := by decide
  have hclose : Whole "]".toList := by decide
  simp only [Host.write, String.toList_append]
  exact (hopen.append haddress).append hclose

/-- A host in brackets is an address, and is written anew from its numbers. -/
theorem whole_bracketed {cs : List Char} {host : Host} (h : Host.readBracketed cs = .ok host) :
    Whole host.write.toList := by
  unfold Host.readBracketed at h
  split at h
  · obtain ⟨ps, -, rfl⟩ := ok_of_map h
    exact whole_ipv6 ps
  · exact absurd h (by simp)

/-- Hosts of the known schemes are addresses or domain names. -/
theorem whole_special {cs : List Char} {host : Host} (h : Host.readSpecial cs = .ok host) :
    Whole host.write.toList := by
  unfold Host.readSpecial at h
  split at h
  · exact whole_bracketed h
  · split at h
    · exact absurd h (by simp)
    · exact absurd h (by simp)
    · rename_i hdomain
      split at h
      · obtain ⟨n, -, rfl⟩ := ok_of_map h
        exact whole_ipv4 n
      · obtain rfl := Except.ok.inj h
        rw [Host.write, String.toList_ofList]
        exact whole_domain hdomain

/-- Other schemes take any host without forbidden characters, and the two signs are forbidden. -/
theorem whole_plain {cs : List Char} {host : Host} (h : Host.readPlain cs = .ok host) :
    Whole host.write.toList := by
  unfold Host.readPlain at h
  split at h
  · exact whole_bracketed h
  · split at h
    · exact absurd h (by simp)
    · rename_i hallowed
      obtain rfl := Except.ok.inj h
      rw [Host.write, String.toList_ofList]
      refine whole_percentEncode fun c hc _ => ?_
      have hclean : Host.isForbidden c = false :=
        Bool.eq_false_iff.mpr fun hbad => hallowed (List.any_eq_true.mpr ⟨c, hc, hbad⟩)
      constructor <;> rintro rfl <;> exact absurd hclean (by decide)

/-! ## Paths -/

/-- A segment is encoded, except for a drive of a file, which is a letter and a colon. -/
theorem whole_keep (drive : Bool) (s : List Char) : Whole (Path.keep drive s) := by
  unfold Path.keep
  split
  · rename_i hdrive
    obtain ⟨-, hletter⟩ := Bool.and_eq_true_iff.mp hdrive
    unfold Path.isDrive at hletter
    split at hletter
    · rename_i a b
      have ha : a.isAlphanum = true := by
        rw [Char.isAlphanum, (Bool.and_eq_true_iff.mp hletter).1, Bool.true_or]
      have hcolon : Whole [':'] := by decide
      exact hcolon.cons (whole_of_isComponentChar (isComponentChar_of_isAlphanum ha))
    · exact absurd hletter (by simp)
  · exact whole_encodedSegment s

theorem whole_back {stack : List (List Char)} (h : ∀ s ∈ stack, Whole s) :
    ∀ s ∈ Path.back stack, Whole s := by
  unfold Path.back
  split
  · exact h
  · split
    · exact h
    · exact fun s hs => h s (List.mem_cons_of_mem _ hs)

/-- Dots only take segments away. -/
theorem whole_resolve (file : Bool) (l : List (List Char)) {stack : List (List Char)}
    (h : ∀ s ∈ stack, Whole s) : ∀ s ∈ Path.resolve file stack l, Whole s := by
  induction l generalizing stack with
  | nil => exact fun s hs => h s (List.mem_reverse.mp hs)
  | cons first rest ih =>
      rw [Path.resolve]
      split
      · -- two dots take the last segment off before anything is put on
        have hstack : ∀ s ∈ (if Path.isDoubleDot first then Path.back stack else stack),
          Whole s := by
          split
          · exact whole_back h
          · exact h
        dsimp only
        split
        · intro s hs
          obtain rfl | hs := List.mem_cons.mp (List.mem_reverse.mp hs)
          · exact fun _ hc => absurd hc List.not_mem_nil
          · exact hstack s hs
        · exact ih hstack
      · exact ih (List.forall_mem_cons.mpr ⟨whole_keep _ first, h⟩)

theorem whole_segments {l : List (List Char)} (h : ∀ s ∈ l, Whole s) :
    Whole (Path.segments (l.map String.ofList)).write.toList := by
  rw [Path.write, String.toList_join]
  intro c hc
  simp only [List.map_map, List.mem_flatMap, List.mem_map] at hc
  obtain ⟨_, ⟨s, hs, rfl⟩, hc⟩ := hc
  have hsign : Whole "/".toList := by decide
  have hsegment : Whole (String.ofList s).toList := String.toList_ofList ▸ h s hs
  rw [Function.comp_apply, String.toList_append] at hc
  exact hsign.append hsegment c hc

theorem whole_ofSegments (l : List (List Char)) : Whole (Path.ofSegments l).write.toList :=
  whole_segments (whole_resolve false l fun _ hs => absurd hs List.not_mem_nil)

theorem whole_trimEmpty {l : List (List Char)} (h : ∀ s ∈ l, Whole s) :
    ∀ s ∈ Path.trimEmpty l, Whole s := by
  unfold Path.trimEmpty
  split
  · intro s hs
    obtain rfl := List.mem_singleton.mp hs
    exact fun _ hc => absurd hc List.not_mem_nil
  · exact fun s hs => h s ((List.dropWhile_sublist _).subset hs)

theorem whole_ofFileSegments (l : List (List Char)) :
    Whole (Path.ofFileSegments l).1.write.toList :=
  whole_segments (whole_trimEmpty (whole_resolve true l fun _ hs => absurd hs List.not_mem_nil))

/-- An opaque path is copied. It has neither sign since it ends where the query begins. -/
theorem whole_ofOpaque {cs : List Char} (h : Whole cs) : Whole (Path.ofOpaque cs).write.toList := by
  rw [Path.ofOpaque, Path.write, String.toList_ofList]
  exact whole_percentEncode fun c hc _ => h c hc

/-- What is cut off in front has neither sign, by the cut. -/
theorem whole_cutTail (cs : List Char) : Whole (cutTail cs).1 := by
  intro c hc
  simpa using List.mem_takeWhile_imp hc

/-- The path of a URL, whatever is in the text. -/
theorem whole_readPath (k : Kind) (cs : List Char) : Whole (readPath k cs).write.toList := by
  unfold readPath
  generalize (if k.isSpecial then cs.map fun c => if c = '\\' then '/' else c else cs) = ds
  dsimp only
  split
  · exact whole_segments fun _ hs => absurd hs List.not_mem_nil
  · exact whole_ofSegments _

/-! ## URLs that have been read -/

/-- What holds of a URL that has been read: the query and the fragment can be told from what stands
before them, and the fragment is encoded. -/
structure WellWritten (u : Url) : Prop where
  scheme : Whole u.scheme.toList
  username : Whole u.username.toList
  password : Whole u.password.toList
  host : ∀ h, u.host? = some h → Whole h.write.toList
  path : Whole u.path.write.toList
  fragment : ∀ f, u.fragment? = some f → ∀ c ∈ f.toList, isEncoded fragmentSet c = false

/-- A fragment is encoded when it is read, so it can be read again as it is. -/
theorem clean_fragment {k : Kind} {cs : List Char} {f : String}
    (h : (readTail k cs).2 = some f) : ∀ c ∈ f.toList, isEncoded fragmentSet c = false := by
  have hset : ∀ c, isComponentChar c = true → fragmentSet c = false := by
    intro c hc
    refine Bool.eq_false_iff.mpr fun hbad => ?_
    simp only [fragmentSet, Bool.or_eq_true, decide_eq_true_eq] at hbad
    obtain (((rfl | rfl) | rfl) | rfl) | rfl := hbad <;> exact absurd hc (by decide)
  have hread : ∃ g, f = String.ofList (percentEncode fragmentSet g) := by
    unfold readTail at h
    dsimp only at h
    split at h
    all_goals
      dsimp only at h
      split at h
      · exact ⟨_, (Option.some.inj h).symm⟩
      · exact absurd h (by simp)
  obtain ⟨g, rfl⟩ := hread
  rw [String.toList_ofList]
  exact clean_percentEncode hset g

/-- The reader of a host is chosen by the scheme; none leaves a sign in it. -/
theorem whole_readHostPort {k : Kind} {cs rest : List Char} {host : Host} {port? : Option Nat}
    (h : readHostPort k cs = .ok (host, port?, rest)) : Whole host.write.toList := by
  have hread : ∃ part, Host.readSpecial part = .ok host ∨ Host.readPlain part = .ok host := by
    unfold readHostPort at h
    dsimp only at h
    split at h
    · exact absurd h throw_ne_ok
    · -- whichever reader it is, what follows the host leaves it as it is
      split at h
      all_goals
        obtain ⟨found, hfound, h⟩ := ok_of_bind h
        have hsame : found = host := by
          split at h
          · split at h
            · exact absurd h throw_ne_ok
            · obtain ⟨⟨port?, behind⟩, -, h⟩ := ok_of_bind h
              exact (Prod.mk.inj (Except.ok.inj h)).1
          · exact (Prod.mk.inj (Except.ok.inj h)).1
        subst hsame
      · exact ⟨_, .inl hfound⟩
      · exact ⟨_, .inr hfound⟩
  obtain ⟨part, hpart | hpart⟩ := hread
  · exact whole_special hpart
  · exact whole_plain hpart

/-- A URL with an authority. -/
theorem wellWritten_readAuthority {scheme : String} {k : Kind} {cs : List Char} {u : Url}
    (hs : Whole scheme.toList) (h : readAuthority scheme k cs = .ok u) : WellWritten u := by
  have hread : ∃ (user : List Char) (host : Host) (port? : Option Nat) (front rest : List Char),
      readHostPort k front = .ok (host, port?, rest)
        ∧ u = ⟨scheme, (readUser user).1, (readUser user).2, some host, port?,
          readPath k (cutTail rest).1, (readTail k (cutTail rest).2).1,
          (readTail k (cutTail rest).2).2⟩ := by
    unfold readAuthority at h
    dsimp only at h
    split at h
    · exact absurd h throw_ne_ok
    · obtain ⟨⟨host, port?, rest⟩, hhost, h⟩ := ok_of_bind h
      dsimp only at h
      split at h
      · exact absurd h throw_ne_ok
      · exact ⟨_, host, port?, _, rest, hhost, (Except.ok.inj h).symm⟩
  obtain ⟨user, host, port?, front, rest, hhost, rfl⟩ := hread
  refine ⟨hs, ?_, ?_, ?_, whole_readPath k _, fun f hf => clean_fragment hf⟩
  · rw [readUser, String.toList_ofList]
    exact whole_encodedUser _
  · rw [readUser, String.toList_ofList]
    exact whole_encodedUser _
  · intro g hg
    obtain rfl := Option.some.inj hg
    exact whole_readHostPort hhost

theorem whole_empty : Whole Host.empty.write.toList := fun _ hc => absurd hc List.not_mem_nil

/-- The host *localhost* of a file counts as none. -/
theorem whole_readFileHost {cs rest : List Char} {host : Host}
    (h : readFileHost cs = .ok (host, rest)) : Whole host.write.toList := by
  unfold readFileHost at h
  dsimp only at h
  split at h
  · obtain ⟨rfl, -⟩ := Prod.mk.inj (Except.ok.inj h)
    exact whole_empty
  · obtain ⟨found, hfound, h⟩ := ok_of_bind h
    have h := Except.ok.inj h
    split at h
    · obtain ⟨rfl, -⟩ := Prod.mk.inj h
      exact whole_empty
    · obtain ⟨rfl, -⟩ := Prod.mk.inj h
      exact whole_special hfound

/-- A URL of a file, which has no user and no port. -/
theorem wellWritten_readFile {cs : List Char} {u : Url} (h : readFile cs = .ok u) :
    WellWritten u := by
  have hread : ∃ (host : Host) (l : List (List Char)) (drive : Bool) (tail : List Char),
      Whole host.write.toList
        ∧ u = ⟨"file", "", "", some (if drive then .empty else host), none,
          (Path.ofFileSegments l).1, (readTail .file tail).1, (readTail .file tail).2⟩ := by
    unfold readFile at h
    split at h
    · split at h
      · obtain ⟨⟨host, rest⟩, hhost, h⟩ := ok_of_bind h
        exact ⟨host, _, _, _, whole_readFileHost hhost, (Except.ok.inj h).symm⟩
      · exact ⟨.empty, _, _, _, whole_empty, (Except.ok.inj h).symm⟩
    · exact ⟨.empty, _, _, _, whole_empty, (Except.ok.inj h).symm⟩
  obtain ⟨host, l, drive, tail, hhost, rfl⟩ := hread
  have hscheme : Whole "file".toList := by decide
  have hnone : Whole "".toList := by decide
  refine ⟨hscheme, hnone, hnone, ?_, whole_ofFileSegments l, fun f hf => clean_fragment hf⟩
  intro g hg
  obtain rfl := Option.some.inj hg
  split
  · exact whole_empty
  · exact hhost

/-- A URL without an authority. -/
theorem wellWritten_readPlain {scheme : String} (hs : Whole scheme.toList) (cs : List Char) :
    WellWritten (readPlain scheme cs) := by
  have hnone : Whole "".toList := by decide
  refine ⟨hs, hnone, hnone, fun _ hg => absurd hg (by simp [readPlain]), ?_,
    fun f hf => clean_fragment hf⟩
  have hfront := whole_cutTail cs
  unfold readPlain
  dsimp only
  split
  · exact whole_ofSegments _
  · exact whole_ofOpaque hfront

/-- A character of a scheme. -/
def isSchemeChar (c : Char) : Bool := c.isAlphanum || c = '+' || c = '-' || c = '.'

/-- A scheme is in lower case, which makes no question mark and no number sign of anything. -/
theorem whole_readScheme {cs rest : List Char} {scheme : String}
    (h : readScheme cs = .ok (scheme, rest)) : Whole scheme.toList := by
  unfold readScheme at h
  dsimp only at h
  split at h
  · split at h
    · obtain ⟨rfl, -⟩ := Prod.mk.inj (Except.ok.inj h)
      rw [String.toList_ofList]
      intro c hc
      obtain ⟨d, hd, rfl⟩ := List.mem_map.mp hc
      have hkept := List.mem_takeWhile_imp hd
      have hascii : d.toNat < 0x80 := by
        simp only [Bool.or_eq_true, decide_eq_true_eq] at hkept
        obtain ((h | rfl) | rfl) | rfl := hkept
        · have := alphanum_bounds h
          omega
        all_goals decide
      -- the characters of a scheme are few enough to look at each of them
      have hlower : ∀ n < 0x80, isSchemeChar (Char.ofNat n) = true →
        (Char.ofNat n).toLower ≠ '?' ∧ (Char.ofNat n).toLower ≠ '#' := by decide
      have hd := hlower d.toNat hascii
      rw [Char.ofNat_toNat] at hd
      exact hd hkept
    · exact absurd h (by simp)
  · exact absurd h (by simp)

/-- **Whatever is read is well written.** -/
theorem wellWritten_read {s : String} {u : Url} (h : Url.read s = .ok u) : WellWritten u := by
  unfold Url.read at h
  obtain ⟨⟨scheme, rest⟩, hscheme, h⟩ := ok_of_bind h
  have hs := whole_readScheme hscheme
  dsimp only at h
  split at h
  · exact wellWritten_readFile h
  · exact wellWritten_readAuthority hs h
  · split at h
    · exact wellWritten_readAuthority hs h
    · obtain rfl := Except.ok.inj h
      exact wellWritten_readPlain hs _

/-! ## The text of a URL -/

/-- What is written before the query. -/
def frontText (u : Url) : String := u.scheme ++ ":" ++ u.writeAuthority ++ u.path.write

/-- So neither sign stands in front of the query: every part in front of it is without them, and so
are the signs that join the parts. -/
theorem WellWritten.front {u : Url} (h : WellWritten u) : Whole (frontText u).toList := by
  have hcolon : Whole ":".toList := by decide
  have hslashes : Whole "//".toList := by decide
  have hport : Whole (writePort u.port?).toList := by
    unfold writePort
    split
    · decide
    · rw [String.toList_append]
      exact hcolon.append (whole_digits _)
  have huser : Whole u.writeUser.toList := by
    have hat : Whole "@".toList := by decide
    have hsecret : Whole (if u.password = "" then "" else ":" ++ u.password).toList := by
      split
      · decide
      · rw [String.toList_append]
        exact hcolon.append h.password
    unfold writeUser
    split
    · decide
    · simp only [String.toList_append]
      exact (h.username.append hsecret).append hat
  -- the authority has two slashes, a user, a host and a port, each of which may be missing
  have hauthority : Whole u.writeAuthority.toList := by
    unfold writeAuthority
    split
    · split <;> decide
    · rename_i host hhost
      simp only [String.toList_append]
      exact ((hslashes.append huser).append (h.host host hhost)).append hport
  simp only [frontText, String.toList_append]
  exact ((h.scheme.append hcolon).append hauthority).append h.path

/-- What is written of the query and the fragment. -/
def tailText (u : Url) : String := writeTail "?" u.query? ++ writeTail "#" u.fragment?

theorem write_eq (u : Url) : u.write = frontText u ++ tailText u := by
  simp only [Url.write, frontText, tailText, String.append_assoc]

/-- The query is not written there. -/
theorem frontText_query (u : Url) (query? : Option String) :
    frontText { u with query? := query? } = frontText u := rfl

/-- A text is cut where the first sign stands. -/
theorem cutTail_append {front tail : List Char} (hfront : Whole front)
    (htail : ∀ c, tail.head? = some c → c = '?' ∨ c = '#') :
    cutTail (front ++ tail) = (front, tail) := by
  have hkept : ∀ c ∈ front, (c ≠ '?' && c ≠ '#') = true := fun c hc => by simpa using hfront c hc
  have htake : (front ++ tail).takeWhile (fun c => c ≠ '?' && c ≠ '#') = front := by
    rw [List.takeWhile_append_of_pos hkept]
    -- the cut ends at the first character of the tail, or at the end of the text
    cases tail with
    | nil => simp
    | cons c rest =>
        have hc : ¬(decide (c ≠ '?') && decide (c ≠ '#')) = true := by
          obtain rfl | rfl := htail c rfl <;> decide
        rw [List.takeWhile_cons, if_neg hc, List.append_nil]
  unfold cutTail
  dsimp only
  rw [htake, List.drop_left]

/-- **The text of a URL that has been read is cut where its query begins.** -/
theorem cutTail_write {u : Url} (h : WellWritten u) :
    cutTail u.write.toList = ((frontText u).toList, (tailText u).toList) := by
  rw [write_eq, String.toList_append]
  refine cutTail_append h.front fun c hc => ?_
  unfold tailText writeTail at hc
  -- the tail begins with the query if there is one, else with the fragment
  cases hq : u.query? with
  | some q =>
      simp only [hq, String.toList_append] at hc
      exact .inl (Option.some.inj hc).symm
  | none =>
      cases hf : u.fragment? with
      | some f =>
          simp only [hq, hf, String.toList_append] at hc
          exact .inr (Option.some.inj hc).symm
      | none => simp [hq, hf] at hc

theorem isQueryChar_bounds {c : Char} (h : isQueryChar c = true) :
    0x20 < c.toNat ∧ c.toNat < 0x7e := by
  simp only [isQueryChar, Bool.or_eq_true, decide_eq_true_eq] at h
  obtain (h | rfl) | rfl := h
  · exact isComponentChar_bounds h
  all_goals decide

/-- The characters of a written query stand for themselves in any query. -/
theorem clean_query {c : Char} (h : isQueryChar c = true) (k : Kind) :
    isEncoded (if k.isSpecial then specialQuerySet else querySet) c = false := by
  obtain ⟨hlow, hhigh⟩ := isQueryChar_bounds h
  have hset : specialQuerySet c = false := by
    refine Bool.eq_false_iff.mpr fun hbad => ?_
    simp only [specialQuerySet, querySet, Bool.or_eq_true, decide_eq_true_eq] at hbad
    obtain ((((rfl | rfl) | rfl) | rfl) | rfl) | rfl := hbad <;> exact absurd h (by decide)
  have hplain : querySet c = false := (Bool.or_eq_false_iff.mp hset).1
  have hcode : (decide (c.toNat < 0x20) || decide (0x7e < c.toNat)) = false := by
    simp
    omega
  unfold isEncoded
  rw [hcode, Bool.false_or]
  split
  · exact hset
  · exact hplain

/-- **A written query is read back from the text as it is**, and so is the fragment. -/
theorem readTail_tailText {u : Url} {query : String} (hquery : u.query? = some query)
    (hchars : ∀ c ∈ query.toList, isQueryChar c = true)
    (hfragment : ∀ f, u.fragment? = some f → ∀ c ∈ f.toList, isEncoded fragmentSet c = false)
    (k : Kind) : readTail k (tailText u).toList = (some query, u.fragment?) := by
  have hsign : ∀ c ∈ query.toList, c ≠ '#' := by
    rintro c hc rfl
    exact absurd (hchars _ hc) (by decide)
  have hencoded : percentEncode (if k.isSpecial then specialQuerySet else querySet) query.toList
      = query.toList :=
    percentEncode_of_clean fun c hc => clean_query (hchars c hc) k
  have htext : (tailText u).toList
      = '?' :: (query.toList ++ (writeTail "#" u.fragment?).toList) := by
    simp only [tailText, hquery, writeTail, String.toList_append]
    rfl
  -- the query ends at the fragment, whose sign the query does not have
  have htake : (query.toList ++ (writeTail "#" u.fragment?).toList).takeWhile (· ≠ '#')
      = query.toList := by
    cases u.fragment? with
    | none =>
        rw [writeTail, String.toList_empty, List.append_nil]
        exact List.takeWhile_eq_self_iff.mpr fun c hc => decide_eq_true (hsign c hc)
    | some f =>
        rw [writeTail, String.toList_append]
        exact (takeWhile_before hsign f.toList).1
  rw [htext, readTail]
  dsimp only
  rw [htake, List.drop_left, hencoded, String.ofList_toList]
  cases hf : u.fragment? with
  | none => rfl
  | some f =>
      rw [writeTail, String.toList_append]
      show (some query, some (String.ofList (percentEncode fragmentSet f.toList))) = _
      rw [percentEncode_of_clean (hfragment f hf), String.ofList_toList]

/-! ## The token -/

section Token

variable (u : Url) (param token : String)

/-- The query with a token is written from the pairs. -/
theorem withToken_query : (u.withToken param (some token)).query?
    = some (writePairs (u.pairs.filter (·.1 ≠ param) ++ [(param, token)])) := rfl

/-- **Read back, the pairs are those of other keys and then the token.** -/
theorem withToken_pairs : (u.withToken param (some token)).pairs
    = u.pairs.filter (·.1 ≠ param) ++ [(param, token)] := by
  rw [Url.pairs, withToken_query, Option.getD_some, readPairs_writePairs]

/-- A token takes the place of one that was attached before. -/
theorem withToken_withToken (other : String) :
    (u.withToken param (some token)).withToken param (some other)
      = u.withToken param (some other) := by
  have hpairs : (u.withToken param (some token)).pairs.filter (·.1 ≠ param)
      = u.pairs.filter (·.1 ≠ param) := by
    -- the pair of the first token has the key that is filtered out
    have hnone : [(param, token)].filter (·.1 ≠ param) = [] := by simp
    rw [withToken_pairs, List.filter_append, List.filter_filter, hnone, List.append_nil]
    simp only [Bool.and_self]
  have hquery : ((u.withToken param (some token)).withToken param (some other)).query?
      = (u.withToken param (some other)).query? := by
    rw [withToken_query, withToken_query, hpairs]
  exact congrArg (fun query => { u with query? := query }) hquery

/-- A token changes the query alone, of which nothing has to hold. -/
theorem WellWritten.withToken {u : Url} (h : WellWritten u) (param token : String) :
    WellWritten (u.withToken param (some token)) :=
  ⟨h.scheme, h.username, h.password, h.host, h.path, h.fragment⟩

/-- What a URL with a token has from the URL without it. -/
structure Attached (u : Url) (param token : String) (v : Url) : Prop where
  /-- The decoded pairs: those of other keys in their order, and then the token. -/
  pairs : v.pairs = u.pairs.filter (·.1 ≠ param) ++ [(param, token)]
  scheme : v.scheme = u.scheme
  user : v.username = u.username ∧ v.password = u.password
  host : v.host? = u.host? ∧ v.port? = u.port?
  path : v.path = u.path
  fragment : v.fragment? = u.fragment?
  /-- A token that is attached later leaves nothing of this one. -/
  again : ∀ other, v.withToken param (some other) = u.withToken param (some other)
  /-- The text is cut behind the same characters as that of the URL without the token. -/
  front : (cutTail v.write.toList).1 = (cutTail u.write.toList).1
  /-- What follows is read as the query of these pairs and the fragment. -/
  tail : ∀ k, readTail k (cutTail v.write.toList).2 = (v.query?, u.fragment?)

end Token

/-- **A token is a pair of the query and nothing else**, whatever the URL, the parameter and the
token are. -/
theorem token_parameter {s : String} {u : Url} (h : Url.read s = .ok u) (param token : String) :
    Attached u param token (u.withToken param (some token)) ∧ u.withToken param none = u := by
  have hbase := wellWritten_read h
  have hready := hbase.withToken param token
  refine ⟨⟨withToken_pairs u param token, rfl, ⟨rfl, rfl⟩, ⟨rfl, rfl⟩, rfl, rfl,
    withToken_withToken u param token, ?_, fun k => ?_⟩, rfl⟩
  · have hfront : frontText (u.withToken param (some token)) = frontText u := by
      rw [Url.withToken, frontText_query]
    rw [cutTail_write hready, cutTail_write hbase, hfront]
  · have hfragment : (u.withToken param (some token)).fragment? = u.fragment? := rfl
    rw [cutTail_write hready, readTail_tailText (withToken_query u param token)
      (fun _ => mem_writePairs) hready.fragment k, withToken_query, hfragment]

/-- A URL whose query has the parameter already, once spelled with an escape. -/
def stale : Url :=
  ⟨"ws", "", "", some (.ipv6 [0, 0, 0, 0, 0, 0, 0, 1]), some 9000, .segments ["realtime"],
    some "to%6Ben=stale&client=web&&x", some "top"⟩

/-- A token with every sign that could end its value, its query or its URL. -/
theorem token_parameter_signs :
    Url.read "ws://[::1]:9000/realtime?to%6Ben=stale&client=web&&x#top" = .ok stale
      ∧ Attached stale "token" "a&token=b c+%?#é"
        { stale with query? := some "client=web&x=&token=a%26token%3Db+c%2B%25%3F%23%C3%A9" } := by
  have hread : Url.read "ws://[::1]:9000/realtime?to%6Ben=stale&client=web&&x#top"
      = .ok stale := by cbv
  have hquery : stale.withToken "token" (some "a&token=b c+%?#é")
      = { stale with query? := some "client=web&x=&token=a%26token%3Db+c%2B%25%3F%23%C3%A9" } := by
    cbv
  exact ⟨hread, hquery ▸ (token_parameter hread "token" "a&token=b c+%?#é").1⟩

end LiveLink.Proofs
