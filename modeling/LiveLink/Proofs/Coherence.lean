import LiveLink.Proofs.SmallSteps
import Mathlib.Data.List.Nodup

/-!
# The connection and its supervisor agree

`connect` tells the listeners before it starts its supervisor, and a listener may
disconnect and connect again meanwhile; supervisors of earlier generations are
still about when a new one starts. What keeps order is the generation:

* every generation is given out once, to a `connect` that has not yet started its
  supervisor or to the supervisor it started;
* the current generation belongs to nobody exactly if the status is *disconnected*;
* otherwise it belongs to a `connect` that is still telling the listeners, or to
  the one supervisor the client has on record, which is not stopped and is where
  the status says.

While listeners are being told of a change, the supervisor that made it has not
moved on yet: its **stage** is then the one it will go on with.

Whoever waits for the session before it waits for a supervisor of an earlier
generation, so giving that one up never stops the current one.
-/

namespace LiveLink.Proofs

open LiveLink

/-! ## Stages -/

/-- What a supervisor is at. -/
inductive Stage where
  /-- Waits for the session before it, or for the answer to its request. -/
  | starting
  | inSession (socket : Nat)
  /-- Its session was told to close. -/
  | leaving
  /-- Waits before the next attempt. -/
  | sleeping
  | gone
  deriving DecidableEq

/-- The stage of a supervisor that rests. -/
def restStage : Phase → Stage
  | .fresh _ | .waiting .. | .opening _ => .starting
  | .inSession socket => .inSession socket
  | .closing _ => .leaving
  | .sleeping _ => .sleeping
  | .finished => .gone

/-- The stage of a supervisor that is to go on. -/
def nextStage : Resumption → Stage
  | .session socket => .inSession socket
  | .sleep _ => .sleeping
  | .dial => .starting

/-- The stage of a supervisor, given who is to go on. -/
def stage (re : List (Nat × Resumption)) (id : Nat) (s : Supervisor) : Stage :=
  match re.find? (·.1 = id) with
  | some p => nextStage p.2
  | none => restStage s.phase

/-- The connection is as a supervisor at a stage left it. -/
def Fits (l : Link) : Stage → Prop
  | .starting => l.status = .connecting ∧ l.outbound = none
  | .inSession socket => l.status = .connected ∧ l.outbound = some socket ∧ l.attempts = 0
  | .sleeping => l.status = .reconnecting ∧ l.outbound = none
  | .leaving | .gone => False

/-- The supervisor that one in this phase waits for. -/
def awaited : Phase → Option Nat
  | .fresh p => p
  | .waiting p _ => some p
  | _ => none

/-! ## Coherence -/

/-- Supervisor `p` is of an earlier generation than `g`. -/
def Before (ss : List Supervisor) (p g : Nat) : Prop :=
  ∃ s, ss[p]? = some s ∧ s.generation < g

/-- The generations that were given out: to supervisors, and to those who are about to start one. -/
def generations (ss : List Supervisor) (st : List (Nat × Option Nat)) : List Nat :=
  ss.map Supervisor.generation ++ st.map Prod.fst

/-- The current generation is in good hands: it belongs to a `connect` that is telling the
listeners, or to the supervisor on record. -/
def Held (l : Link) (ss : List Supervisor) (st : List (Nat × Option Nat))
    (re : List (Nat × Resumption)) : Prop :=
  (l.generation ∈ st.map Prod.fst ∧ l.supervisor = none ∧ Fits l .starting)
    ∨ ∃ id s, l.supervisor = some id ∧ ss[id]? = some s ∧ s.generation = l.generation
      ∧ s.stopped = false ∧ Fits l (stage re id s)

/-- The connection agrees with the supervisors, with those who are about to start one and with the
supervisor that is to go on. -/
structure Coherent (l : Link) (ss : List Supervisor) (st : List (Nat × Option Nat))
    (re : List (Nat × Resumption)) : Prop where
  /-- A generation is given out once. -/
  distinct : (generations ss st).Nodup
  le : ∀ g ∈ generations ss st, g ≤ l.generation
  /-- At most one supervisor is to go on. -/
  one : re.length ≤ 1
  known : ∀ p ∈ re, p.1 < ss.length
  closing : ∀ p, l.closing = some p → Before ss p l.generation
  passed : ∀ g p, (g, some p) ∈ st → Before ss p g
  waiting : ∀ (id : Nat) (s : Supervisor) (p : Nat), ss[id]? = some s →
    awaited s.phase = some p → Before ss p s.generation
  down : l.status = .disconnected → l.generation ∉ generations ss st ∧ l.supervisor = none
    ∧ l.outbound = none ∧ l.attempts = 0
  up : l.status ≠ .disconnected → Held l ss st re

/-- Who is about to start a supervisor. -/
def starting (w : World) : List (Nat × Option Nat) :=
  w.stack.filterMap fun
    | .connecting g previous => some (g, previous)
    | _ => none

/-- Who is to go on once the listeners have been told. -/
def resuming (w : World) : List (Nat × Resumption) :=
  w.stack.filterMap fun
    | .supervisor id next => some (id, next)
    | _ => none

/-- A world whose connection and supervisors agree. -/
def CoherentWorld (w : World) : Prop :=
  Coherent w.link w.supervisors (starting w) (resuming w)

variable {l : Link} {ss : List Supervisor} {st : List (Nat × Option Nat)}
  {re : List (Nat × Resumption)}

/-! ## Supervisors change, generations do not -/

theorem generations_modify (ss : List Supervisor) (st : List (Nat × Option Nat)) (id : Nat)
    {f : Supervisor → Supervisor} (hf : ∀ s, (f s).generation = s.generation) :
    generations (ss.modify id f) st = generations ss st := by
  rw [generations, map_modify ss id hf, generations]

theorem before_iff (p g : Nat) :
    Before ss p g ↔ ∃ g', (ss.map Supervisor.generation)[p]? = some g' ∧ g' < g := by
  unfold Before
  rw [List.getElem?_map]
  cases ss[p]? <;> simp

theorem before_modify {p g : Nat} (id : Nat) {f : Supervisor → Supervisor}
    (hf : ∀ s, (f s).generation = s.generation) :
    Before (ss.modify id f) p g ↔ Before ss p g := by
  rw [before_iff, before_iff, map_modify ss id hf]

theorem Before.append {p g : Nat} (h : Before ss p g) (more : List Supervisor) :
    Before (ss ++ more) p g := by
  obtain ⟨s, hs, hg⟩ := h
  have hp : p < ss.length := (List.getElem?_eq_some_iff.mp hs).1
  exact ⟨s, by rw [List.getElem?_append_left hp]; exact hs, hg⟩

theorem Before.mono {p g g' : Nat} (h : Before ss p g) (hg : g ≤ g') : Before ss p g' := by
  obtain ⟨s, hs, hlt⟩ := h
  exact ⟨s, hs, Nat.lt_of_lt_of_le hlt hg⟩

theorem mem_generations {id : Nat} {s : Supervisor} (h : ss[id]? = some s) :
    s.generation ∈ generations ss st :=
  List.mem_append_left _ (List.mem_map_of_mem (List.mem_of_getElem? h))

/-- A supervisor after one was changed is the changed one or an old one. -/
theorem getElem?_modify_cases {id j : Nat} {f : Supervisor → Supervisor} {s : Supervisor}
    (h : (ss.modify id f)[j]? = some s) :
    (j = id ∧ ∃ s₀, ss[id]? = some s₀ ∧ s = f s₀) ∨ (j ≠ id ∧ ss[j]? = some s) := by
  by_cases hj : id = j
  · subst hj
    rw [List.getElem?_modify_eq] at h
    obtain ⟨s₀, hs₀, rfl⟩ := Option.map_eq_some_iff.mp h
    exact .inl ⟨rfl, s₀, hs₀, rfl⟩
  · rw [List.getElem?_modify_ne _ _ hj] at h
    exact .inr ⟨Ne.symm hj, h⟩

namespace Coherent

/-- Two supervisors of one generation are the same one. -/
theorem unique (h : Coherent l ss st re) {i j : Nat} {s t : Supervisor} (hi : ss[i]? = some s)
    (hj : ss[j]? = some t) (hg : s.generation = t.generation) : i = j := by
  have hnd : (ss.map Supervisor.generation).Nodup := h.distinct.of_append_left
  have hi' : (ss.map Supervisor.generation)[i]? = some s.generation := by
    rw [List.getElem?_map, hi]; rfl
  have hj' : (ss.map Supervisor.generation)[j]? = some s.generation := by
    rw [List.getElem?_map, hj, hg]; rfl
  obtain ⟨hlt, -⟩ := List.getElem?_eq_some_iff.mp hi'
  exact (List.getElem?_inj hlt hnd).mp (hi'.trans hj'.symm)

/-- A supervisor's generation waits for no start. -/
theorem not_starting (h : Coherent l ss st re) {id : Nat} {s : Supervisor} (hs : ss[id]? = some s) :
    s.generation ∉ st.map Prod.fst := by
  intro hmem
  have hs' : s.generation ∈ ss.map Supervisor.generation :=
    List.mem_map_of_mem (List.mem_of_getElem? hs)
  exact (List.disjoint_of_nodup_append h.distinct) hs' hmem

/-- **A supervisor of the current generation is the one on record.** -/
theorem current (h : Coherent l ss st re) {id : Nat} {s : Supervisor} (hs : ss[id]? = some s)
    (hg : s.generation = l.generation) :
    l.status ≠ .disconnected ∧ l.supervisor = some id ∧ s.stopped = false
      ∧ Fits l (stage re id s) := by
  have hup : l.status ≠ .disconnected := by
    intro hd
    exact (h.down hd).1 (hg ▸ mem_generations hs)
  -- the generation belongs to this supervisor, so to no `connect`
  rcases h.up hup with ⟨hmem, -, -⟩ | ⟨i, t, hsup, ht, htg, hstop, hfit⟩
  · exact absurd (hg ▸ hmem) (h.not_starting hs)
  · obtain rfl : id = i := h.unique hs ht (hg.trans htg.symm)
    obtain rfl : t = s := Option.some.inj (ht.symm.trans hs)
    exact ⟨hup, hsup, hstop, hfit⟩

end Coherent

theorem Fits.congr {l' : Link} {s : Stage} (h : Fits l s) (hs : l'.status = l.status)
    (ho : l'.outbound = l.outbound) (ha : l'.attempts = l.attempts) : Fits l' s := by
  cases s with
  | starting => exact ⟨hs.trans h.1, ho.trans h.2⟩
  | inSession socket => exact ⟨hs.trans h.1, ho.trans h.2.1, ha.trans h.2.2⟩
  | sleeping => exact ⟨hs.trans h.1, ho.trans h.2⟩
  | leaving => exact h
  | gone => exact h

namespace Coherent

/-! ## Changes of one supervisor -/

/-- What a change of one supervisor must keep for the agreement to stay. -/
structure Tame (ss : List Supervisor) (id : Nat) (f : Supervisor → Supervisor) : Prop where
  generation : ∀ s, (f s).generation = s.generation
  waiting : ∀ s p, ss[id]? = some s → awaited (f s).phase = some p → Before ss p s.generation

theorem waiting_modify (h : Coherent l ss st re) {id : Nat} {f : Supervisor → Supervisor}
    (hf : Tame ss id f) (j : Nat) (s : Supervisor) (p : Nat)
    (hs : (ss.modify id f)[j]? = some s) (hp : awaited s.phase = some p) :
    Before (ss.modify id f) p s.generation := by
  rw [before_modify id hf.generation]
  rcases getElem?_modify_cases hs with ⟨-, s₀, hs₀, rfl⟩ | ⟨-, hs⟩
  · rw [hf.generation]
    exact hf.waiting s₀ p hs₀ hp
  · exact h.waiting j s p hs hp

/-- One supervisor changes, and the connection too: what is left to show is who holds the current
generation. -/
theorem modify (h : Coherent l ss st re) {id : Nat} {f : Supervisor → Supervisor}
    {re' : List (Nat × Resumption)} {l' : Link} (hf : Tame ss id f) (hone : re'.length ≤ 1)
    (hknown : ∀ p ∈ re', p.1 < ss.length) (hgen : l'.generation = l.generation)
    (hclosing : l'.closing = l.closing) (hdown : l'.status = .disconnected → l' = l)
    (hup : l'.status ≠ .disconnected → Held l' (ss.modify id f) st re') :
    Coherent l' (ss.modify id f) st re' where
  distinct := by rw [generations_modify ss st id hf.generation]; exact h.distinct
  le := by rw [generations_modify ss st id hf.generation, hgen]; exact h.le
  one := hone
  known := by intro p hp; rw [List.length_modify]; exact hknown p hp
  closing := by
    intro p hp
    rw [before_modify id hf.generation, hgen]
    exact h.closing p (hclosing ▸ hp)
  passed := by intro g p hp; rw [before_modify id hf.generation]; exact h.passed g p hp
  waiting := h.waiting_modify hf
  down := by
    intro hd
    obtain rfl := hdown hd
    rw [generations_modify ss st id hf.generation]
    exact h.down hd
  up := hup

/-- A supervisor of an earlier generation changes. -/
theorem elsewhere (h : Coherent l ss st re) {id : Nat} {f : Supervisor → Supervisor}
    (hf : Tame ss id f) (hne : ∀ s, ss[id]? = some s → s.generation ≠ l.generation) :
    Coherent l (ss.modify id f) st re := by
  refine h.modify hf h.one h.known rfl rfl (fun _ => rfl) fun hup => ?_
  rcases h.up hup with hst | ⟨i, s, hsup, hs, hg, hstop, hfit⟩
  · exact .inl hst
  · have hi : id ≠ i := by
      intro hi
      exact hne s (hi ▸ hs) hg
    exact .inr ⟨i, s, hsup, by rw [List.getElem?_modify_ne _ _ hi]; exact hs, hg, hstop, hfit⟩

/-- A supervisor moves on and stays at its stage. -/
theorem restage (h : Coherent l ss st re) {id : Nat} {s : Supervisor}
    {f : Supervisor → Supervisor} {re' : List (Nat × Resumption)} (hs : ss[id]? = some s)
    (hf : Tame ss id f) (hstop : (f s).stopped = s.stopped) (hone : re'.length ≤ 1)
    (hknown : ∀ p ∈ re', p.1 < ss.length) (hsame : stage re' id (f s) = stage re id s)
    (hother : ∀ j t, j ≠ id → stage re' j t = stage re j t) :
    Coherent l (ss.modify id f) st re' := by
  refine h.modify hf hone hknown rfl rfl (fun _ => rfl) fun hup => ?_
  rcases h.up hup with hst | ⟨i, t, hsup, ht, hg, htstop, hfit⟩
  · exact .inl hst
  · by_cases hi : i = id
    · subst hi
      obtain rfl : t = s := Option.some.inj (ht.symm.trans hs)
      refine .inr ⟨i, f t, hsup, by simp [hs], (hf.generation t).trans hg,
        hstop.trans htstop, ?_⟩
      rw [hsame]
      exact hfit
    · refine .inr ⟨i, t, hsup, ?_, hg, htstop, ?_⟩
      · rw [List.getElem?_modify_ne _ _ (Ne.symm hi)]
        exact ht
      · rw [hother i t hi]
        exact hfit

/-- The supervisor of the current generation moves on, and the connection with it. -/
theorem advance (h : Coherent l ss st re) {id : Nat} {s : Supervisor}
    {f : Supervisor → Supervisor} {re' : List (Nat × Resumption)} {l' : Link}
    (hs : ss[id]? = some s) (hg : s.generation = l.generation) (hf : Tame ss id f)
    (hstop : (f s).stopped = s.stopped) (hone : re'.length ≤ 1)
    (hknown : ∀ p ∈ re', p.1 < ss.length) (hgen : l'.generation = l.generation)
    (hsup : l'.supervisor = l.supervisor) (hclosing : l'.closing = l.closing)
    (hup : l'.status ≠ .disconnected) (hfit : Fits l' (stage re' id (f s))) :
    Coherent l' (ss.modify id f) st re' := by
  refine h.modify hf hone hknown hgen hclosing (fun hd => absurd hd hup) fun _ => ?_
  obtain ⟨-, hsup₀, hstop₀, -⟩ := h.current hs hg
  exact .inr ⟨id, f s, hsup.trans hsup₀, by simp [hs],
    (hf.generation s).trans (hg.trans hgen.symm), hstop.trans hstop₀, hfit⟩

/-! ## Generations given out -/

/-- The supervisor of a number, if one is given, is stopped. -/
def halted (ss : List Supervisor) : Option Nat → List Supervisor
  | some id => ss.modify id ({ · with stopped := true })
  | none => ss

theorem map_generation_halted (ss : List Supervisor) (id : Option Nat) :
    (halted ss id).map Supervisor.generation = ss.map Supervisor.generation := by
  cases id with
  | none => rfl
  | some id => exact map_modify ss id fun _ => rfl

theorem before_halted (id : Option Nat) {p g : Nat} :
    Before (halted ss id) p g ↔ Before ss p g := by
  rw [before_iff, before_iff, map_generation_halted]

theorem waiting_halted (h : Coherent l ss st re) (id : Option Nat) (j : Nat) (s : Supervisor)
    (p : Nat) (hs : (halted ss id)[j]? = some s) (hp : awaited s.phase = some p) :
    Before (halted ss id) p s.generation := by
  cases id with
  | none => exact h.waiting j s p hs hp
  | some id =>
      have hf : Tame ss id ({ · with stopped := true }) :=
        ⟨fun _ => rfl, fun s p hs hp => h.waiting id s p hs hp⟩
      exact h.waiting_modify hf j s p hs hp

theorem length_halted (ss : List Supervisor) (id : Option Nat) :
    (halted ss id).length = ss.length := by
  cases id with
  | none => rfl
  | some id => exact List.length_modify _ _ _

/-- `connect` takes the next generation. -/
theorem begun (h : Coherent l ss st re) (id : Option Nat) :
    Coherent l.startConnecting.1 (halted ss id)
      ((l.startConnecting.1.generation, l.closing) :: st) re := by
  have hgen : l.startConnecting.1.generation = l.generation + 1 := by simp [Link.startConnecting]
  have hclosing : l.startConnecting.1.closing = none := by simp [Link.startConnecting]
  have hstatus : l.startConnecting.1.status = .connecting := by simp [Link.startConnecting]
  -- nothing was given out beyond the current generation
  have hfresh : l.generation + 1 ∉ generations ss st := by
    intro hmem
    have := h.le _ hmem
    omega
  have hlist : generations (halted ss id) ((l.startConnecting.1.generation, l.closing) :: st)
      = ss.map Supervisor.generation ++ (l.generation + 1) :: st.map Prod.fst := by
    rw [generations, map_generation_halted, List.map_cons, hgen]
  refine ⟨?_, ?_, h.one, ?_, ?_, ?_, h.waiting_halted id, ?_, ?_⟩
  · rw [hlist, List.nodup_middle, List.nodup_cons]
    exact ⟨hfresh, h.distinct⟩
  · intro g hg
    rw [hlist, List.mem_append, List.mem_cons] at hg
    rw [hgen]
    rcases hg with hg | rfl | hg
    · have := h.le g (List.mem_append_left _ hg)
      omega
    · exact Nat.le_refl _
    · have := h.le g (List.mem_append_right _ hg)
      omega
  · intro p hp
    rw [length_halted]
    exact h.known p hp
  · intro p hp
    rw [hclosing] at hp
    exact absurd hp (by simp)
  · intro g p hp
    rw [before_halted]
    rcases List.mem_cons.mp hp with heq | hp
    · obtain ⟨rfl, hc⟩ := Prod.mk.inj heq
      rw [hgen]
      exact (h.closing p hc.symm).mono (Nat.le_succ _)
    · exact h.passed g p hp
  · intro hd
    rw [hstatus] at hd
    exact Status.noConfusion hd
  · intro _
    exact .inl ⟨List.mem_cons_self, by simp [Link.startConnecting], hstatus,
      by simp [Link.startConnecting]⟩

/-- The supervisor on record is of the current generation. -/
theorem recorded (h : Coherent l ss st re) {p : Nat} (hp : l.supervisor = some p) :
    ∃ s, ss[p]? = some s ∧ s.generation = l.generation := by
  by_cases hd : l.status = .disconnected
  · rw [(h.down hd).2.1] at hp
    exact absurd hp (by simp)
  · rcases h.up hd with ⟨-, hnone, -⟩ | ⟨i, s, hsup, hs, hg, -, -⟩
    · rw [hnone] at hp
      exact absurd hp (by simp)
    · obtain rfl : i = p := Option.some.inj (hsup.symm.trans hp)
      exact ⟨s, hs, hg⟩

/-- `disconnect` takes the next generation and gives it to nobody. -/
theorem halt (h : Coherent l ss st re) (id : Option Nat) :
    Coherent l.stop.1 (halted ss id) st re := by
  have hgen : l.stop.1.generation = l.generation + 1 := by simp [Link.stop]
  have hclosing : l.stop.1.closing = l.supervisor ∨ l.stop.1.closing = l.closing := by
    simp only [Link.stop, Link.setStatus_closing]
    split
    · exact .inl rfl
    · exact .inr rfl
  have hlist : generations (halted ss id) st = generations ss st := by
    rw [generations, map_generation_halted, generations]
  refine ⟨?_, ?_, h.one, ?_, ?_, ?_, h.waiting_halted id, ?_, ?_⟩
  · rw [hlist]
    exact h.distinct
  · intro g hg
    rw [hlist] at hg
    have := h.le g hg
    omega
  · intro p hp
    rw [length_halted]
    exact h.known p hp
  · intro p hp
    rw [before_halted, hgen]
    -- what is to be closed is the session of the supervisor on record, or still an older one
    rcases hclosing with hc | hc
    · obtain ⟨s, hs, hg⟩ := h.recorded (hc ▸ hp)
      exact ⟨s, hs, by omega⟩
    · exact (h.closing p (hc ▸ hp)).mono (Nat.le_succ _)
  · intro g p hp
    rw [before_halted]
    exact h.passed g p hp
  · intro _
    refine ⟨?_, by simp [Link.stop], by simp [Link.stop], by simp [Link.stop]⟩
    intro hmem
    rw [hlist] at hmem
    have := h.le _ hmem
    omega
  · intro hup
    exact absurd (by simp [Link.stop]) hup

/-- The generations stay when a supervisor takes over from the `connect` that starts it. -/
theorem generations_append (g : Nat) (previous : Option Nat) (stopped : Bool) :
    generations (ss ++ [⟨g, .fresh previous, stopped⟩]) st
      = generations ss ((g, previous) :: st) := by
  simp [generations]

/-- A supervisor is started. -/
theorem grow (h : Coherent l ss ((g, previous) :: st) re) {l' : Link} {stopped : Bool}
    (hgen : l'.generation = l.generation) (hclosing : l'.closing = l.closing)
    (hdown : l'.status = .disconnected → l' = l)
    (hup : l'.status ≠ .disconnected → Held l' (ss ++ [⟨g, .fresh previous, stopped⟩]) st re) :
    Coherent l' (ss ++ [⟨g, .fresh previous, stopped⟩]) st re where
  distinct := by rw [generations_append]; exact h.distinct
  le := by rw [generations_append, hgen]; exact h.le
  one := h.one
  known := by
    intro p hp
    have := h.known p hp
    rw [List.length_append]
    exact Nat.lt_add_right _ this
  closing := by
    intro p hp
    rw [hgen]
    exact (h.closing p (hclosing ▸ hp)).append _
  passed := by
    intro g' p hp
    exact (h.passed g' p (List.mem_cons_of_mem _ hp)).append _
  waiting := by
    intro id s p hs hp
    rcases Nat.lt_or_ge id ss.length with hid | hid
    · rw [List.getElem?_append_left hid] at hs
      exact (h.waiting id s p hs hp).append _
    · rw [List.getElem?_append_right hid, List.getElem?_singleton] at hs
      split at hs
      · obtain rfl := Option.some.inj hs
        -- the new one waits for the session that `connect` took over
        obtain rfl : previous = some p := hp
        exact (h.passed g p List.mem_cons_self).append _
      · exact absurd hs (by simp)
  down := by
    intro hd
    obtain rfl := hdown hd
    rw [generations_append]
    exact h.down hd
  up := hup

/-- A `connect` whose generation is still the current one puts its supervisor on record. -/
theorem adopted (h : Coherent l ss ((g, previous) :: st) re) (hg : l.generation = g) :
    Coherent { l with supervisor := some ss.length } (ss ++ [⟨g, .fresh previous, false⟩]) st
      re := by
  subst hg
  have hup : l.status ≠ .disconnected := by
    intro hd
    refine (h.down hd).1 (List.mem_append_right _ ?_)
    exact List.mem_cons_self
  refine h.grow rfl rfl (fun hd => absurd hd hup) fun _ => ?_
  rcases h.up hup with ⟨-, -, hfit⟩ | ⟨i, s, -, hs, hg, -, -⟩
  · -- who is to go on was there before
    have hnew : stage re ss.length ⟨l.generation, .fresh previous, false⟩ = .starting := by
      have hnone : re.find? (·.1 = ss.length) = none := by
        rw [List.find?_eq_none]
        intro p hp
        have := h.known p hp
        simp only [decide_eq_true_eq]
        omega
      rw [stage, hnone]
      rfl
    refine .inr ⟨ss.length, ⟨l.generation, .fresh previous, false⟩, rfl, by simp, rfl, rfl, ?_⟩
    rw [hnew]
    exact hfit.congr rfl rfl rfl
  · -- the generation was still to be started, so no supervisor has it
    refine absurd ?_ (h.not_starting hs)
    rw [hg]
    exact List.mem_cons_self

/-- A `connect` whose generation has passed stops its supervisor before it does anything. -/
theorem refused (h : Coherent l ss ((g, previous) :: st) re) (hg : l.generation ≠ g) :
    Coherent l (ss ++ [⟨g, .fresh previous, true⟩]) st re := by
  refine h.grow rfl rfl (fun _ => rfl) fun hup => ?_
  rcases h.up hup with ⟨hmem, hrest⟩ | ⟨i, s, hsup, hs, hrest⟩
  · rcases List.mem_cons.mp hmem with heq | hmem
    · exact absurd heq hg
    · exact .inl ⟨hmem, hrest⟩
  · refine .inr ⟨i, s, hsup, ?_, hrest⟩
    have hi : i < ss.length := (List.getElem?_eq_some_iff.mp hs).1
    rw [List.getElem?_append_left hi]
    exact hs

end Coherent

/-! ## Worlds -/

theorem stopSupervisor_supervisors (w : World) (id : Option Nat) :
    (w.stopSupervisor id).supervisors = Coherent.halted w.supervisors id := by
  cases id <;> rfl

theorem starting_shift (w : World) (t : Link × Option Change) :
    starting (shift w t) = starting w :=
  shift_filterMap w t fun _ _ => rfl

theorem resuming_shift (w : World) (t : Link × Option Change) :
    resuming (shift w t) = resuming w :=
  shift_filterMap w t fun _ _ => rfl

theorem coherentWorld_initial (parts : Parts) (setup : Setup) (hasRuntime : Bool)
    (stamps : Nat → Stamp) : CoherentWorld (World.initial parts setup hasRuntime stamps) where
  distinct := List.nodup_nil
  le := by intro g hg; exact absurd hg (by simp [World.initial, generations, starting])
  one := Nat.zero_le _
  known := by intro p hp; exact absurd hp (by simp [World.initial, resuming])
  closing := by intro p hp; exact absurd hp (by simp [World.initial, Link.initial])
  passed := by intro g p hp; exact absurd hp (by simp [World.initial, starting])
  waiting := by intro id s p hs _; exact absurd hs (by simp [World.initial])
  down := by
    intro _
    simp [World.initial, Link.initial, generations, starting]
  up := by intro hup; exact absurd rfl hup

/-- Coherence is about the connection without its token. -/
theorem Coherent.token (h : Coherent l ss st re) (t : Option String) :
    Coherent { l with token := t } ss st re where
  distinct := h.distinct
  le := h.le
  one := h.one
  known := h.known
  closing := h.closing
  passed := h.passed
  waiting := h.waiting
  down := h.down
  up := by
    intro hup
    rcases h.up hup with ⟨hmem, hsup, hfit⟩ | ⟨i, s, hsup, hs, hg, hstop, hfit⟩
    · exact .inl ⟨hmem, hsup, hfit.congr rfl rfl rfl⟩
    · exact .inr ⟨i, s, hsup, hs, hg, hstop, hfit.congr rfl rfl rfl⟩

theorem coherentWorld_data {u w w' : World} {act : Action} (hw : CoherentWorld w)
    (h : DataStep u act w w') : CoherentWorld w' := by
  obtain ⟨t, hl⟩ := data_link h
  have hst : starting w' = starting w :=
    data_filterMap ⟨fun _ _ _ => rfl, fun _ _ _ _ => rfl⟩ h
  have hre : resuming w' = resuming w :=
    data_filterMap ⟨fun _ _ _ => rfl, fun _ _ _ _ => rfl⟩ h
  unfold CoherentWorld
  rw [hl, hst, hre, data_supervisors h]
  exact Coherent.token hw t

/-- Nothing is under way in a world whose stack is empty. -/
theorem starting_nil {w : World} (h : w.stack = []) : starting w = [] := by
  rw [starting, h]
  rfl

theorem resuming_nil {w : World} (h : w.stack = []) : resuming w = [] := by
  rw [resuming, h]
  rfl

/-- A supervisor that rests goes from one phase to another of the same stage. -/
theorem coherentWorld_rest {w : World} (hw : CoherentWorld w) {id : Nat} {s : Supervisor}
    {p : Phase} (hr : AtRest w id s) (hp : restStage p = restStage s.phase)
    (hwait : ∀ q, awaited p = some q → Before w.supervisors q s.generation) :
    CoherentWorld (w.rest id p) := by
  have hre : resuming w = [] := resuming_nil hr.stack
  unfold CoherentWorld at hw ⊢
  refine hw.restage hr.supervisor ⟨fun _ => rfl, ?_⟩ rfl hw.one hw.known ?_ fun _ _ _ => rfl
  · intro t q ht hq
    obtain rfl : t = s := Option.some.inj (ht.symm.trans hr.supervisor)
    exact hwait q hq
  · have hstage : ∀ t : Supervisor, stage (resuming w) id t = restStage t.phase := by
      intro t
      rw [hre]
      rfl
    exact (hstage _).trans (hp.trans (hstage s).symm)

theorem coherentWorld_connect {w : World} (hw : CoherentWorld w) :
    CoherentWorld (shift ((w.stopSupervisor w.link.supervisor).push
      (.connecting w.link.startConnecting.1.generation w.link.closing))
        w.link.startConnecting) := by
  unfold CoherentWorld
  rw [shift_link, shift_supervisors, starting_shift, resuming_shift]
  have h := hw.begun w.link.supervisor
  rw [← stopSupervisor_supervisors] at h
  simp only [starting, resuming, World.push, stopSupervisor_stack] at h ⊢
  exact h

theorem coherentWorld_disconnect {w : World} (hw : CoherentWorld w) :
    CoherentWorld (shift (w.stopSupervisor w.link.idleSupervisor) w.link.stop) := by
  unfold CoherentWorld
  rw [shift_link, shift_supervisors, starting_shift, resuming_shift]
  have h := hw.halt w.link.idleSupervisor
  rw [← stopSupervisor_supervisors] at h
  simp only [starting, resuming, stopSupervisor_stack] at h ⊢
  exact h

theorem modify_concat {α : Type} (l : List α) (x : α) (f : α → α) :
    (l ++ [x]).modify l.length f = l ++ [f x] := by
  induction l with
  | nil => rfl
  | cons a rest ih => simp [ih]

theorem coherentWorld_start {w : World} (hw : CoherentWorld w) {g : Nat} {previous : Option Nat}
    {tail : List Frame} (hs : w.stack = .connecting g previous :: tail) :
    CoherentWorld ({ w with stack := tail }.startSupervisor g previous) := by
  have hst : starting w = (g, previous) :: starting { w with stack := tail } := by
    simp [starting, hs]
  have hre : resuming w = resuming { w with stack := tail } := by
    simp [resuming, hs]
  unfold CoherentWorld at hw
  rw [hst, hre] at hw
  by_cases hg : w.link.generation = g
  · have hadopt : w.link.adopt g w.supervisors.length
        = some { w.link with supervisor := some w.supervisors.length } := if_pos hg
    simp only [World.startSupervisor, hadopt]
    exact hw.adopted hg
  · have hadopt : w.link.adopt g w.supervisors.length = none := if_neg hg
    simp only [World.startSupervisor, hadopt]
    unfold CoherentWorld
    simp only [World.stopSupervisor, modify_concat]
    exact hw.refused hg

theorem coherentWorld_resume {w : World} (hw : CoherentWorld w) {id : Nat} {next : Resumption}
    {tail : List Frame} (hs : w.stack = .supervisor id next :: tail) :
    CoherentWorld ({ w with stack := tail }.resume id next) := by
  have hst : starting w = starting { w with stack := tail } := by
    simp [starting, hs]
  have hre : resuming w = (id, next) :: resuming { w with stack := tail } := by
    simp [resuming, hs]
  -- nobody else is to go on
  have hnone : resuming { w with stack := tail } = [] := by
    have := hw.one
    rw [hre, List.length_cons] at this
    exact List.eq_nil_of_length_eq_zero (by omega)
  have hid : id < w.supervisors.length := by
    refine hw.known (id, next) ?_
    rw [hre]
    exact List.mem_cons_self
  obtain ⟨s, hsup⟩ : ∃ s, w.supervisors[id]? = some s := ⟨_, List.getElem?_eq_getElem hid⟩
  unfold CoherentWorld at hw
  rw [hst, hre, hnone] at hw
  have hsame : ∀ p, restStage p = nextStage next → (∀ q, awaited p ≠ some q) →
      CoherentWorld ({ w with stack := tail }.rest id p) := by
    intro p hp hq
    have h : Coherent w.link (w.supervisors.modify id ({ · with phase := p }))
        (starting { w with stack := tail }) [] := by
      refine hw.restage hsup ⟨fun _ => rfl, ?_⟩ rfl (Nat.zero_le _) ?_ ?_ ?_
      · intro t q _ h
        exact absurd h (hq q)
      · intro q h
        exact absurd h List.not_mem_nil
      · simp [stage, hp]
      · intro j t hj
        simp [stage, Ne.symm hj]
    rw [← hnone] at h
    exact h
  cases next with
  | session socket =>
      simp only [World.resume, hsup]
      exact hsame _ rfl (by simp [awaited])
  | sleep wait =>
      simp only [World.resume, hsup]
      exact hsame _ rfl (by simp [awaited])
  | dial =>
      simp only [World.resume, hsup]
      exact hsame _ rfl (by simp [awaited])

/-- The supervisor of the current generation changes the connection and is to go on. -/
theorem coherentWorld_turn {w x : World} (hw : CoherentWorld w) {id : Nat} {s : Supervisor}
    {t : Link × Option Change} (next : Resumption) (f : Supervisor → Supervisor)
    (hr : AtRest w id s) (hg : s.generation = w.link.generation)
    (hf : Coherent.Tame w.supervisors id f) (hstop : (f s).stopped = s.stopped)
    (hx : x.supervisors = w.supervisors.modify id f) (hstack : x.stack = [.supervisor id next])
    (hgen : t.1.generation = w.link.generation) (hsup : t.1.supervisor = w.link.supervisor)
    (hclosing : t.1.closing = w.link.closing) (hup : t.1.status ≠ .disconnected)
    (hfit : Fits t.1 (nextStage next)) : CoherentWorld (shift x t) := by
  have hst : starting x = starting w := by simp [starting, hstack, hr.stack]
  have hre : resuming x = [(id, next)] := by simp [resuming, hstack]
  unfold CoherentWorld
  rw [shift_link, shift_supervisors, starting_shift, resuming_shift, hx, hst, hre]
  refine hw.advance hr.supervisor hg hf hstop (Nat.le_refl _) ?_ hgen hsup hclosing hup ?_
  · intro p hp
    obtain rfl := List.mem_singleton.mp hp
    exact (List.getElem?_eq_some_iff.mp hr.supervisor).1
  · simpa [stage] using hfit

/-- A supervisor that is not of the current generation ends or begins to close. -/
theorem coherentWorld_rest_elsewhere {w : World} (hw : CoherentWorld w) {id : Nat}
    {s : Supervisor} {p : Phase} (hr : AtRest w id s) (hg : s.generation ≠ w.link.generation)
    (hp : awaited p = none) : CoherentWorld (w.rest id p) := by
  refine hw.elsewhere ⟨fun _ => rfl, ?_⟩ ?_
  · intro t q _ hq
    rw [hp] at hq
    exact absurd hq (by simp)
  · intro t ht
    obtain rfl : t = s := Option.some.inj (ht.symm.trans hr.supervisor)
    exact hg

theorem coherentWorld_giveUp {w : World} (hw : CoherentWorld w) {id p d : Nat} {s : Supervisor}
    (hr : AtRest w id s) (hp : s.phase = .waiting p d) :
    CoherentWorld ((w.stopSupervisor (some p)).dial id s) := by
  -- the one that is given up is of an earlier generation than the one that waits for it
  have hbefore : Before w.supervisors p s.generation :=
    hw.waiting id s p hr.supervisor (by rw [hp]; rfl)
  have hle : s.generation ≤ w.link.generation := hw.le _ (mem_generations hr.supervisor)
  obtain ⟨t, ht, htg⟩ := hbefore
  have hne : p ≠ id := by
    rintro rfl
    obtain rfl : t = s := Option.some.inj (ht.symm.trans hr.supervisor)
    omega
  have hstopped : CoherentWorld (w.stopSupervisor (some p)) := by
    refine hw.elsewhere ⟨fun _ => rfl, ?_⟩ ?_
    · intro u q hu hq
      exact hw.waiting p u q hu hq
    · intro u hu
      obtain rfl : u = t := Option.some.inj (hu.symm.trans ht)
      omega
  have hr' : AtRest (w.stopSupervisor (some p)) id s := by
    refine ⟨hr.stack, ?_⟩
    simp only [World.stopSupervisor]
    rw [List.getElem?_modify_ne _ _ hne]
    exact hr.supervisor
  refine coherentWorld_rest hstopped hr' ?_ ?_
  · rw [hp]
    rfl
  · intro q hq
    exact absurd hq (by simp [awaited])

/-- A session hands a frame over and stays in session. -/
theorem coherentWorld_enter {w : World} (hw : CoherentWorld w) {id socket : Nat} {s : Supervisor}
    (hr : AtRest w id s) (hp : s.phase = .inSession socket) :
    CoherentWorld (w.push (.supervisor id (.session socket))) := by
  have hst : starting (w.push (.supervisor id (.session socket))) = starting w := rfl
  have hre : resuming (w.push (.supervisor id (.session socket))) = [(id, .session socket)] := by
    simp [resuming, World.push, hr.stack]
  unfold CoherentWorld at hw ⊢
  rw [hst, hre]
  have h : Coherent w.link (w.supervisors.modify id fun t => t) (starting w)
      [(id, .session socket)] := by
    refine hw.restage hr.supervisor ⟨fun _ => rfl, hw.waiting id⟩ rfl (Nat.le_refl _) ?_ ?_ ?_
    · intro p hp
      obtain rfl := List.mem_singleton.mp hp
      exact (List.getElem?_eq_some_iff.mp hr.supervisor).1
    · simp [stage, resuming_nil hr.stack, hp, restStage, nextStage]
    · intro j t hj
      simp [stage, resuming_nil hr.stack, Ne.symm hj]
  have hid : w.supervisors.modify id (fun t => t) = w.supervisors := List.modify_id _ _
  rw [hid] at h
  exact h

/-- A world is coherent if it has the connection, the supervisors and the frames of one that is. -/
theorem CoherentWorld.of_eq {w w' : World} (hw : CoherentWorld w) (hl : w'.link = w.link)
    (hs : w'.supervisors = w.supervisors) (hst : starting w' = starting w)
    (hre : resuming w' = resuming w) : CoherentWorld w' := by
  unfold CoherentWorld
  rw [hl, hs, hst, hre]
  exact hw

/-- **Coherence is preserved by every small change.** -/
theorem coherentWorld_step {u w w' : World} {act : Action} (hw : CoherentWorld w)
    (h : SmallStep u act w w') : CoherentWorld w' := by
  cases h with
  | data h => exact coherentWorld_data hw h
  | pass nanos hs => exact hw.of_eq rfl rfl rfl rfl
  | announce c ha hb =>
      exact hw.of_eq rfl rfl (offer_filterMap w (fun _ _ => rfl) c)
        (offer_filterMap w (fun _ _ => rfl) c)
  | heardOnce hs =>
      exact hw.of_eq rfl rfl (by simp [starting, World.happen, hs])
        (by simp [resuming, World.happen, hs])
  | heard o cs hs =>
      exact hw.of_eq rfl rfl (by simp [starting, World.happen, hs])
        (by simp [resuming, World.happen, hs])
  | drained hs hp =>
      exact hw.of_eq rfl rfl (by simp [starting, hs]) (by simp [resuming, hs])
  | skipped hs hp hd => exact hw.of_eq rfl rfl rfl rfl
  | announced hs hp hd =>
      exact hw.of_eq rfl rfl (by simp [starting, World.happen, hs])
        (by simp [resuming, World.happen, hs])
  | connect hy ha hr hm => exact coherentWorld_connect hw
  | disconnect hy ha => exact coherentWorld_disconnect hw
  | start hs => exact coherentWorld_start hw hs
  | resume hs => exact coherentWorld_resume hw hs
  | dial hr hs hp =>
      refine coherentWorld_rest hw hr ?_ fun q hq => absurd hq (by simp [awaited])
      rcases hp with hp | ⟨p, -, hp | ⟨d, hp⟩⟩ <;> rw [hp] <;> rfl
  | wait hr hs hp hf =>
      refine coherentWorld_rest hw hr (by rw [hp]; rfl) ?_
      intro q hq
      obtain rfl := Option.some.inj hq
      exact hw.waiting _ _ _ hr.supervisor (by rw [hp]; rfl)
  | giveUp hr hs hp hf hd => exact coherentWorld_giveUp hw hr hp
  | @retry id d s t hy hr hs hp hd ht =>
      obtain ⟨hg, rfl⟩ := Link.retry_eq_some ht
      obtain ⟨-, -, -, hfit⟩ := hw.current hr.supervisor hg.symm
      have hsleep : stage (resuming w) id s = .sleeping := by
        simp [stage, resuming_nil hr.stack, hp, restStage]
      rw [hsleep] at hfit
      exact coherentWorld_turn hw .dial (fun t => t) hr hg.symm ⟨fun _ => rfl, hw.waiting id⟩ rfl
        (List.modify_id _ _).symm (by simp [World.push, hr.stack]) (by simp) (by simp) (by simp)
        (by simp) ⟨by simp, by simpa using hfit.2⟩
  | leave hr hs hg hl => exact coherentWorld_rest_elsewhere hw hr (Ne.symm hg) rfl
  | halt hr hs hp =>
      refine coherentWorld_rest_elsewhere hw hr ?_ rfl
      -- the supervisor of the current generation is not stopped
      intro hg
      rw [(hw.current hr.supervisor hg).2.2.1] at hs
      exact Bool.false_ne_true hs
  | @opened id s url t hy hr hs hp ht =>
      obtain ⟨hg, rfl⟩ := Link.startSession_eq_some ht
      refine coherentWorld_turn hw (.session w.sockets.length)
        ({ · with phase := .inSession w.sockets.length }) hr hg.symm ⟨fun _ => rfl, ?_⟩ rfl rfl
        (by simp [World.push, World.happen, World.rest, hr.stack]) (by simp) (by simp) (by simp)
        (by simp) ⟨by simp, by simp, by simp⟩
      intro u q _ hq
      exact absurd hq (by simp [awaited])
  | @failed id s t sockets hy hr hs hp ht hl =>
      obtain ⟨hg, rfl⟩ := Link.fail_eq_some ht
      exact coherentWorld_turn hw (.sleep (w.setup.backoff.delay w.link.attempts)) (fun t => t)
        hr hg.symm ⟨fun _ => rfl, hw.waiting id⟩ rfl
        (List.modify_id _ _).symm (by simp [World.push, World.happen, hr.stack]) (by simp)
        (by simp) (by simp) (by simp) ⟨by simp, by simp⟩
  | dropped hr hp => exact hw.of_eq rfl rfl rfl rfl
  | wrote hr hs hp hq => exact hw.of_eq rfl rfl rfl rfl
  | @wroteClose id socket s hr hs hp hq ho =>
      refine coherentWorld_rest_elsewhere hw hr ?_ rfl
      -- the queue of the current session is there
      intro hg
      obtain ⟨-, -, -, hfit⟩ := hw.current hr.supervisor hg
      have hin : stage (resuming w) id s = .inSession socket := by
        simp [stage, resuming_nil hr.stack, hp, restStage]
      rw [hin] at hfit
      exact ho hfit.2.1
  | read i hr hs hp => exact hw.of_eq rfl rfl rfl rfl
  | enter hr hs hp => exact coherentWorld_enter hw hr hp

theorem coherentWorld_reachable {parts : Parts} {setup : Setup} {hasRuntime : Bool}
    {stamps : Nat → Stamp} {as : List Action} {w : World}
    (h : (World.initial parts setup hasRuntime stamps).actAll as = some w) : CoherentWorld w :=
  runs_keep coherentWorld_step (coherentWorld_initial parts setup hasRuntime stamps)
    (actAll_runs h)

/-! ## Worlds at rest -/

/-- There is a queue for what is sent exactly in a session. -/
theorem Fits.outbound {s : Stage} (h : Fits l s) :
    l.outbound.isSome ↔ l.status = .connected := by
  cases s with
  | starting => simp [h.1, h.2]
  | inSession socket => simp [h.1, h.2.1]
  | sleeping => simp [h.1, h.2]
  | leaving => exact h.elim
  | gone => exact h.elim

/-- The phase of a supervisor that rests is the one the status says. -/
theorem Fits.phase {p : Phase} (h : Fits l (restStage p)) :
    (restStage p = .starting ↔ l.status = .connecting)
      ∧ ((∃ socket, p = .inSession socket) ↔ l.status = .connected)
      ∧ ((∃ deadline, p = .sleeping deadline) ↔ l.status = .reconnecting)
      ∧ (∀ socket, l.outbound = some socket ↔ p = .inSession socket) := by
  cases p with
  | fresh q => simp [restStage, h.1, h.2]
  | waiting q d => simp [restStage, h.1, h.2]
  | opening url => simp [restStage, h.1, h.2]
  | inSession socket => simp [restStage, h.1, h.2.1]
  | closing socket => exact h.elim
  | sleeping d => simp [restStage, h.1, h.2]
  | finished => exact h.elim

/-- A supervisor of the current generation that is not to be stopped. -/
structure Serving (w : World) (id : Nat) (s : Supervisor) : Prop where
  supervisor : w.supervisors[id]? = some s
  stopped : s.stopped = false
  generation : s.generation = w.link.generation

/-- **At rest, the connection and its supervisor agree.**

However `connect`, `disconnect`, the listeners and handlers that call them, and the steps of all
supervisors have followed each other: when no code runs, a disconnected client has no supervisor of
its generation; otherwise exactly one has, it is the one on record, and it waits to open a socket,
runs a session or sleeps just as the status says. There is a queue for what is sent exactly while
the client is connected, and it is that of the session the supervisor runs.
-/
theorem supervisor_coherence {parts : Parts} {setup : Setup} {hasRuntime : Bool}
    {stamps : Nat → Stamp} {as : List Action} {w : World}
    (h : (World.initial parts setup hasRuntime stamps).actAll as = some w) (hq : w.stack = []) :
    (w.link.status = .disconnected →
      (∀ id s, ¬ Serving w id s) ∧ w.link.supervisor = none ∧ w.link.outbound = none
        ∧ w.link.attempts = 0)
    ∧ (w.link.status ≠ .disconnected →
      ∃ id s, Serving w id s ∧ (∀ id' s', Serving w id' s' → id' = id)
        ∧ w.link.supervisor = some id
        ∧ (restStage s.phase = .starting ↔ w.link.status = .connecting)
        ∧ ((∃ socket, s.phase = .inSession socket) ↔ w.link.status = .connected)
        ∧ ((∃ deadline, s.phase = .sleeping deadline) ↔ w.link.status = .reconnecting)
        ∧ (∀ socket, w.link.outbound = some socket ↔ s.phase = .inSession socket))
    ∧ (w.link.outbound.isSome ↔ w.link.status = .connected) := by
  have hw := coherentWorld_reachable h
  -- no code runs, so the supervisor in charge is not one that is still to be started
  have hfits : w.link.status ≠ .disconnected → ∃ id s, Serving w id s
      ∧ w.link.supervisor = some id ∧ Fits w.link (restStage s.phase) := by
    intro hup
    rcases hw.up hup with ⟨hmem, -, -⟩ | ⟨id, s, hsup, hs, hg, hstop, hfit⟩
    · rw [starting_nil hq] at hmem
      exact absurd hmem List.not_mem_nil
    · refine ⟨id, s, ⟨hs, hstop, hg⟩, hsup, ?_⟩
      simpa [stage, resuming_nil hq] using hfit
  refine ⟨?_, ?_, ?_⟩
  · intro hd
    obtain ⟨hfree, hsup, hout, hatt⟩ := hw.down hd
    refine ⟨?_, hsup, hout, hatt⟩
    intro id s hs
    exact hfree (hs.generation ▸ mem_generations hs.supervisor)
  · intro hup
    obtain ⟨id, s, hs, hsup, hfit⟩ := hfits hup
    refine ⟨id, s, hs, ?_, hsup, ?_⟩
    · intro id' s' hs'
      exact hw.unique hs'.supervisor hs.supervisor (hs'.generation.trans hs.generation.symm)
    · exact hfit.phase
  · by_cases hd : w.link.status = .disconnected
    · obtain ⟨-, -, hout, -⟩ := hw.down hd
      simp [hd, hout]
    · obtain ⟨id, s, -, -, hfit⟩ := hfits hd
      exact hfit.outbound

/-- A listener that disconnects and connects again as soon as the first connection is there, and the
run that lets it do so. -/
def interruptedRun : List Action :=
  [.command (.listen "restless" (some .connected) fun run =>
      if run = 0 then [.disconnect, .connect] else []),
    .command .connect, .go, .go, .go, .go, .wake 0, .answered 0 true] ++ List.replicate 12 .go

/-- The first session was told to close, and the supervisor of the third generation serves. -/
theorem supervisor_coherence_interrupted :
    ∃ w, (World.initial ⟨true, false, true⟩ .standard true fun _ => ⟨"m1", .epoch⟩).actAll
        interruptedRun = some w
      ∧ w.stack = [] ∧ w.link.status = .connecting ∧ w.link.supervisor = some 1
      ∧ (∃ s, Serving w 1 s ∧ (∀ id' s', Serving w id' s' → id' = 1)
        ∧ restStage s.phase = .starting)
      ∧ ¬ w.link.outbound.isSome := by
  obtain ⟨w, h, hq, hs, hsup⟩ :
      ∃ w, (World.initial ⟨true, false, true⟩ .standard true fun _ => ⟨"m1", .epoch⟩).actAll
          interruptedRun = some w
        ∧ w.stack = [] ∧ w.link.status = .connecting ∧ w.link.supervisor = some 1 :=
    ⟨_, rfl, rfl, rfl, rfl⟩
  obtain ⟨-, hup, hout⟩ := supervisor_coherence h hq
  rw [hs] at hup hout
  obtain ⟨id, s, hserve, honly, hid, hstart, -⟩ := hup Status.noConfusion
  obtain rfl : 1 = id := Option.some.inj (hsup.symm.trans hid)
  refine ⟨w, h, hq, hs, hsup, ⟨s, hserve, honly, hstart.mpr rfl⟩, ?_⟩
  intro hsome
  exact Status.noConfusion (hout.mp hsome)

end LiveLink.Proofs
