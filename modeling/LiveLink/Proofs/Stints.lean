import LiveLink.Proofs.ViewInputs

/-!
# What a monitor shows of each stream

A monitor keeps three tables side by side: which streams it watches, their last
snapshots, and their last alerts. Streams come and go, and what arrives for one that is
not watched is passed over. Seen from a single stream there is only its `stint`: the
inputs of the monitor since it came to watch the stream last. `stream_stints` says
that everything shown for the stream is read off its stint.

The three tables stay aligned because each input changes what is shown of a stream as if
there were no others (`track_attended`). What a stream shows is therefore a fold over
inputs of which those about other streams do nothing (`keep_untouched`), and the stint
is what that fold collects (`keep_extend`).
-/

namespace LiveLink.Proofs

open LiveLink

/-! ## What a monitor is told -/

/-- The snapshot of a stream in an input, if it can be read. -/
def snapshotIn (stream : String) : ViewInput → Option HealthSnapshot
  | .envelope e =>
    if e.topic = "stream.health.update" then
      (e.typed HealthSnapshot.record.codec).toOption.filter (·.streamId = stream)
    else none
  | _ => none

/-- The alert for a stream in an input, if it can be read. -/
def alertIn (stream : String) : ViewInput → Option HealthAlert
  | .envelope e =>
    if e.topic = "stream.health.alert" then
      (e.typed HealthAlert.record.codec).toOption.filter (·.streamId = stream)
    else none
  | _ => none

/-- Whether an input asks for a stream to be watched. -/
def begins (stream : String) : ViewInput → Bool
  | .addStream s => s = stream
  | _ => false

/-- Whether an input asks for a stream to be watched no longer. -/
def ceases (stream : String) : ViewInput → Bool
  | .removeStream s => s = stream
  | _ => false

/-- Whether an input is about a stream. -/
def touches (stream : String) (d : ViewInput) : Bool :=
  (snapshotIn stream d).isSome || (alertIn stream d).isSome || begins stream d || ceases stream d

/-- What a monitor shows after an input. -/
def attended (v : HealthView) : ViewInput → HealthView
  | .envelope e =>
    if e.topic = "stream.health.update" then
      (e.typed HealthSnapshot.record.codec).toOption.elim v fun s => v.receive s
    else if e.topic = "stream.health.alert" then
      (e.typed HealthAlert.record.codec).toOption.elim v fun a => v.alert a
    else v
  | .addStream stream => v.add stream
  | .removeStream stream => v.remove stream
  | .markRead _ | .markAllRead => v

/-- What a monitor that was started with some streams shows after some inputs. -/
def monitorAfter (limit : Nat) (streams : List String) (ds : List ViewInput) : HealthView :=
  ds.foldl attended (.watching limit streams)

theorem receiveInput_health (d : ViewInput) (v : HealthView) :
    receiveInput d (.health v) = .health (attended v d) := by
  cases d with
  | envelope e =>
      unfold receiveInput heard attended View.receive
      dsimp only
      split
      · cases e.typed HealthSnapshot.record.codec <;> rfl
      · split
        · cases e.typed HealthAlert.record.codec <;> rfl
        · rfl
  | _ => rfl

/-- A monitor stays a monitor, so what it shows is a fold over its inputs. -/
theorem after_health (ds : List ViewInput) (v : HealthView) :
    after (.health v) ds = .health (ds.foldl attended v) := by
  induction ds generalizing v with
  | nil => rfl
  | cons d rest ih =>
      show after (receiveInput d (.health v)) rest = _
      rw [receiveInput_health]
      exact ih _

/-! ## Stints -/

/-- One more input in the stint of a stream. To watch a stream that is watched begins nothing
new. -/
def extend (stream : String) (past : Option (List ViewInput)) (d : ViewInput) :
    Option (List ViewInput) :=
  match past with
  | some past => if ceases stream d then none else some (past ++ [d])
  | none => if begins stream d then some [] else none

/-- The inputs of a monitor since it came to watch a stream last, if it watches the stream. -/
def stint (stream : String) (streams : List String) (ds : List ViewInput) :
    Option (List ViewInput) :=
  ds.foldl (extend stream) (if stream ∈ streams then some [] else none)

/-- The last items of a list, as many as there is room for. -/
def lastOf {α : Type} (limit : Nat) (l : List α) : List α := l.drop (l.length - limit)

/-- What is shown of a stream that is watched. -/
structure Track where
  snapshot : Option HealthSnapshot
  alerts : List HealthAlert

/-- What a monitor shows of a stream, if it watches it. -/
def track (v : HealthView) (stream : String) : Option Track :=
  if v.watches stream then some ⟨v.snapshot stream, v.alerts stream⟩ else none

/-- What is shown of a stream after an input. -/
def keep (limit : Nat) (stream : String) (t : Option Track) (d : ViewInput) : Option Track :=
  match t with
  | some t =>
    if ceases stream d then none
    else some ⟨(snapshotIn stream d).or t.snapshot,
      (alertIn stream d).elim t.alerts fun a => pushBounded limit t.alerts a⟩
  | none => if begins stream d then some ⟨none, []⟩ else none

/-- What a stint leaves to be shown. -/
def trackOf (limit : Nat) (stream : String) (past : List ViewInput) : Track :=
  ⟨(past.filterMap (snapshotIn stream)).getLast?, lastOf limit (past.filterMap (alertIn stream))⟩

section Tracks

variable {v : HealthView} {limit : Nat} {stream other : String} {d : ViewInput}

/-- A stint that has just begun leaves nothing to be shown. -/
theorem trackOf_nil (limit : Nat) (stream : String) : trackOf limit stream [] = ⟨none, []⟩ :=
  congrArg (Track.mk none) List.drop_nil

/-- **A stint is shown as what it collects.** -/
theorem keep_extend (limit : Nat) (stream : String) (past : Option (List ViewInput))
    (d : ViewInput) :
    keep limit stream (past.map (trackOf limit stream)) d
      = (extend stream past d).map (trackOf limit stream) := by
  cases past with
  | none =>
      simp only [keep, extend, Option.map_none]
      split
      · rw [Option.map_some, trackOf_nil]
      · rfl
  | some past =>
      simp only [keep, extend, Option.map_some]
      split
      · rfl
      · simp only [Option.map_some, trackOf, List.filterMap_append]
        -- the last snapshot is the new one if there is one, and the new alert pushes the oldest out
        congr 2
        · cases hs : snapshotIn stream d with
          | none => rw [List.filterMap_cons_none hs]; simp
          | some s => rw [List.filterMap_cons_some hs]; simp
        · cases ha : alertIn stream d with
          | none => rw [List.filterMap_cons_none ha]; simp
          | some a => rw [List.filterMap_cons_some ha]; exact pushBounded_drop limit _ a

/-- What is not about a stream does nothing for it. -/
theorem keep_untouched (h : touches stream d = false) (t : Option Track) :
    keep limit stream t d = t := by
  simp only [touches, Bool.or_eq_false_iff, Option.isSome_eq_false_iff, Option.isNone_iff_eq_none]
    at h
  obtain ⟨⟨⟨hs, ha⟩, hb⟩, hc⟩ := h
  cases t with
  | none => simp [keep, hb]
  | some t => simp [keep, hs, ha, hc]

/-! ## The three tables -/

theorem watches_iff : v.watches stream = true ↔ stream ∈ v.streamIds := mem_keys.symm

/-- Nothing is known of a stream that is not watched. -/
def Aligned (v : HealthView) : Prop :=
  ∀ stream, v.watches stream = false → v.snapshot stream = none ∧ v.alerts stream = []

/-! ### A snapshot arrives -/

/-- A snapshot is kept for its own stream, if that is watched. -/
theorem receive_track (s : HealthSnapshot) : track (v.receive s) stream =
    (track v stream).map fun t =>
      if s.streamId = stream then { t with snapshot := some s } else t := by
  unfold HealthView.receive
  split
  · rename_i hwatched
    show (if v.watches stream then some (⟨(v.latest.insert s.streamId s).get? stream,
      v.alerts stream⟩ : Track) else none) = _
    unfold track
    cases v.watches stream with
    | false => rfl
    | true =>
        by_cases hs : s.streamId = stream
        · subst hs
          simp
        · simp [hs, Table.get?_insert_ne hs, HealthView.snapshot]
  · rename_i hwatched
    unfold track
    by_cases hs : s.streamId = stream
    · subst hs
      rw [if_neg hwatched]
      rfl
    · simp [hs]

/-- Nothing is put in for a stream that is not watched. -/
theorem receive_aligned (h : Aligned v) (s : HealthSnapshot) : Aligned (v.receive s) := by
  unfold HealthView.receive
  split
  · rename_i hwatched
    intro stream hstream
    obtain ⟨hsnapshot, halerts⟩ := h stream hstream
    have hs : s.streamId ≠ stream := by
      rintro rfl
      exact Bool.false_ne_true (hstream.symm.trans hwatched)
    exact ⟨(Table.get?_insert_ne hs s v.latest).trans hsnapshot, halerts⟩
  · exact h

/-! ### An alert arrives -/

/-- Alerts are kept likewise, the last ones for each stream. -/
theorem alert_track (a : HealthAlert) : track (v.alert a) stream =
    (track v stream).map fun t => if a.streamId = stream
      then { t with alerts := pushBounded v.alertLimit t.alerts a } else t := by
  unfold HealthView.alert
  split
  · rename_i hwatched
    show (if v.watches stream then some (⟨v.snapshot stream,
      ((v.recent.insert a.streamId (pushBounded v.alertLimit (v.alerts a.streamId) a)).get?
        stream).getD []⟩ : Track) else none) = _
    unfold track
    cases v.watches stream with
    | false => rfl
    | true =>
        by_cases ha : a.streamId = stream
        · subst ha
          simp
        · simp [ha, Table.get?_insert_ne ha, HealthView.alerts]
  · rename_i hwatched
    unfold track
    by_cases ha : a.streamId = stream
    · subst ha
      rw [if_neg hwatched]
      rfl
    · simp [ha]

theorem alert_aligned (h : Aligned v) (a : HealthAlert) : Aligned (v.alert a) := by
  unfold HealthView.alert
  split
  · rename_i hwatched
    intro stream hstream
    obtain ⟨hsnapshot, halerts⟩ := h stream hstream
    have ha : a.streamId ≠ stream := by
      rintro rfl
      exact Bool.false_ne_true (hstream.symm.trans hwatched)
    refine ⟨hsnapshot, ?_⟩
    show ((v.recent.insert a.streamId _).get? stream).getD [] = []
    rw [Table.get?_insert_ne ha]
    exact halerts
  · exact h

/-! ### Streams come and go -/

/-- A stream that is taken up shows nothing yet; one that is watched already keeps what it shows. -/
theorem add_track (h : Aligned v) (s : String) : track (v.add s) stream =
    (track v stream).or (if s = stream then some ⟨none, []⟩ else none) := by
  unfold HealthView.add
  split
  · rename_i hwatched
    unfold track
    by_cases hs : s = stream
    · subst hs
      rw [if_pos hwatched]
      rfl
    · rw [if_neg hs, Option.or_none]
  · rename_i hwatched
    rw [Bool.not_eq_true] at hwatched
    show (if ((v.watched.insert s ()).get? stream).isSome then
      some (⟨v.snapshot stream, v.alerts stream⟩ : Track) else none) = _
    unfold track
    by_cases hs : s = stream
    · subst hs
      -- nothing is known of it yet
      obtain ⟨hsnapshot, halerts⟩ := h s hwatched
      simp [hwatched, hsnapshot, halerts]
    · rw [if_neg hs, Option.or_none, Table.get?_insert_ne hs]
      rfl

/-- To watch more leaves fewer streams of which nothing may be known. -/
theorem add_aligned (h : Aligned v) (s : String) : Aligned (v.add s) := by
  unfold HealthView.add
  split
  · exact h
  · intro stream hstream
    -- a stream that is not watched now was not watched before
    refine h stream ?_
    by_cases hs : s = stream
    · subst hs
      exact absurd hstream (by simp [HealthView.watches, Table.contains])
    · unfold HealthView.watches Table.contains at hstream ⊢
      rwa [Table.get?_insert_ne hs] at hstream

/-- A stream that is left shows nothing any more. -/
theorem remove_track (s : String) : track (v.remove s) stream =
    if s = stream then none else track v stream := by
  unfold HealthView.remove
  split
  · unfold track HealthView.watches HealthView.snapshot HealthView.alerts Table.contains
    dsimp only
    by_cases hs : s = stream
    · subst hs
      simp
    · rw [if_neg hs, Table.get?_erase_ne hs, Table.get?_erase_ne hs, Table.get?_erase_ne hs]
  · -- a stream that is not watched is not removed, and shows nothing as it is
    rename_i hwatched
    by_cases hs : s = stream
    · subst hs
      rw [if_pos rfl]
      exact if_neg hwatched
    · rw [if_neg hs]

/-- What was known of a stream is forgotten with it, snapshot and alerts. -/
theorem remove_aligned (h : Aligned v) (s : String) : Aligned (v.remove s) := by
  unfold HealthView.remove
  split
  · intro stream hstream
    by_cases hs : s = stream
    · subst hs
      simp [HealthView.snapshot, HealthView.alerts]
    · unfold HealthView.watches Table.contains at hstream
      rw [Table.get?_erase_ne hs] at hstream
      unfold HealthView.snapshot HealthView.alerts
      rw [Table.get?_erase_ne hs, Table.get?_erase_ne hs]
      exact h stream hstream
  · exact h

/-! ### Inputs -/

/-- An envelope brings a snapshot or an alert, or nothing that can be read. -/
theorem attended_envelope (v : HealthView) (e : Envelope) : attended v (.envelope e) = v
    ∨ (∃ s, attended v (.envelope e) = v.receive s) ∨ ∃ a, attended v
      (.envelope e) = v.alert a := by
  unfold attended
  dsimp only
  split
  · cases (e.typed HealthSnapshot.record.codec).toOption with
    | none => exact .inl rfl
    | some s => exact .inr (.inl ⟨s, rfl⟩)
  · split
    · cases (e.typed HealthAlert.record.codec).toOption with
      | none => exact .inl rfl
      | some a => exact .inr (.inr ⟨a, rfl⟩)
    · exact .inl rfl

theorem attended_aligned (h : Aligned v) (d : ViewInput) : Aligned (attended v d) := by
  cases d with
  | envelope e =>
      rcases attended_envelope v e with he | ⟨s, he⟩ | ⟨a, he⟩ <;> rw [he]
      · exact h
      · exact receive_aligned h s
      · exact alert_aligned h a
  | addStream s => exact add_aligned h s
  | removeStream s => exact remove_aligned h s
  | markRead id => exact h
  | markAllRead => exact h

/-- No input changes how many alerts are kept. -/
theorem attended_limit (v : HealthView) (d : ViewInput) :
    (attended v d).alertLimit = v.alertLimit := by
  cases d with
  | envelope e =>
      rcases attended_envelope v e with he | ⟨s, he⟩ | ⟨a, he⟩ <;> rw [he]
      · unfold HealthView.receive
        split <;> rfl
      · unfold HealthView.alert
        split <;> rfl
  | addStream s =>
      show (v.add s).alertLimit = _
      unfold HealthView.add
      split <;> rfl
  | removeStream s =>
      show (v.remove s).alertLimit = _
      unfold HealthView.remove
      split <;> rfl
  | markRead id => rfl
  | markAllRead => rfl

/-- An input that asks for no stream leaves it watched or not, and changes what is shown of it. -/
theorem keep_envelope (e : Envelope) (t : Option Track) : keep limit stream t (.envelope e) =
    t.map fun t => ⟨(snapshotIn stream (.envelope e)).or t.snapshot,
      (alertIn stream (.envelope e)).elim t.alerts fun a => pushBounded limit t.alerts a⟩ := by
  cases t <;> rfl

/-- **An input changes what is shown of a stream as if there were no others.** -/
theorem track_attended (h : Aligned v) (d : ViewInput) (stream : String) :
    track (attended v d) stream = keep v.alertLimit stream (track v stream) d := by
  cases d with
  | envelope e =>
      -- an envelope that cannot be read, or is about another topic, does nothing
      have hnothing : snapshotIn stream (.envelope e) = none → alertIn stream (.envelope e) = none →
          track v stream = keep v.alertLimit stream (track v stream) (.envelope e) :=
        fun hs ha => (keep_untouched (by simp [touches, hs, ha, begins, ceases]) _).symm
      unfold attended
      dsimp only
      split
      · rename_i htopic
        have halert : alertIn stream (.envelope e) = none := if_neg (by rw [htopic]; decide)
        have hsnapshot : snapshotIn stream (.envelope e)
            = (e.typed HealthSnapshot.record.codec).toOption.filter (·.streamId = stream) :=
          if_pos htopic
        cases hx : (e.typed HealthSnapshot.record.codec).toOption with
        | none => exact hnothing (by rw [hsnapshot, hx]; rfl) halert
        | some s =>
            rw [Option.elim_some, receive_track, keep_envelope, halert, hsnapshot, hx]
            refine congrArg (fun f => Option.map f _) (funext fun t => ?_)
            by_cases hs : s.streamId = stream <;> simp [Option.filter, hs]
      · rename_i hother
        have hsnapshot : snapshotIn stream (.envelope e) = none := if_neg hother
        split
        · rename_i htopic
          have halert : alertIn stream (.envelope e)
              = (e.typed HealthAlert.record.codec).toOption.filter (·.streamId = stream) :=
            if_pos htopic
          cases hx : (e.typed HealthAlert.record.codec).toOption with
          | none => exact hnothing hsnapshot (by rw [halert, hx]; rfl)
          | some a =>
              rw [Option.elim_some, alert_track, keep_envelope, hsnapshot, halert, hx]
              refine congrArg (fun f => Option.map f _) (funext fun t => ?_)
              by_cases ha : a.streamId = stream <;> simp [Option.filter, ha]
        · rename_i htopic
          exact hnothing hsnapshot (if_neg htopic)
  | addStream s =>
      show track (v.add s) stream = _
      rw [add_track h]
      cases track v stream with
      | none => simp [keep, begins]
      | some t => rfl
  | removeStream s =>
      show track (v.remove s) stream = _
      rw [remove_track]
      cases track v stream with
      | none => simp [keep, begins]
      | some t => by_cases hs : s = stream <;> simp [keep, ceases, hs, snapshotIn, alertIn]
  | markRead id => exact (keep_untouched rfl _).symm
  | markAllRead => exact (keep_untouched rfl _).symm

/-- Streams are watched in order. -/
theorem attended_ordered (h : Ordered v.watched) (d : ViewInput) :
    Ordered (attended v d).watched := by
  cases d with
  | envelope e =>
      -- what arrives changes no stream that is watched
      have hsame : (attended v (.envelope e)).streamIds = v.streamIds := by
        rcases attended_envelope v e with he | ⟨s, he⟩ | ⟨a, he⟩ <;> rw [he]
        · exact streamIds_receive v s
        · exact streamIds_alert v a
      show (attended v (.envelope e)).streamIds.Pairwise (· < ·)
      rw [hsame]
      exact h
  | addStream s =>
      show Ordered (v.add s).watched
      unfold HealthView.add
      split
      · exact h
      · exact ordered_insert h s ()
  | removeStream s =>
      show Ordered (v.remove s).watched
      unfold HealthView.remove
      split
      · exact ordered_erase h s
      · exact h
  | markRead id => exact h
  | markAllRead => exact h

/-! ## From the start -/

/-- A table that is filled key by key has these keys, in order and each once. -/
theorem foldl_insert {α : Type} (pairs : List (String × α)) {t : Table α} (h : Ordered t) :
    Ordered (pairs.foldl (fun t p => t.insert p.1 p.2) t)
      ∧ ∀ key, key ∈ (pairs.foldl (fun t p => t.insert p.1 p.2) t).keys
        ↔ key ∈ pairs.map (·.1) ∨ key ∈ t.keys := by
  induction pairs generalizing t with
  | nil => exact ⟨h, fun key => by simp⟩
  | cons p rest ih =>
      obtain ⟨hordered, hkeys⟩ := ih (ordered_insert h p.1 p.2)
      refine ⟨hordered, fun key => (hkeys key).trans ?_⟩
      rw [mem_keys_insert, List.map_cons, List.mem_cons]
      tauto

theorem watching_watches (limit : Nat) (streams : List String) :
    (HealthView.watching limit streams).watches stream = true ↔ stream ∈ streams := by
  have hkeys := (foldl_insert (streams.map fun s => (s, ())) (t := []) .nil).2 stream
  rw [watches_iff]
  refine hkeys.trans ?_
  simp [Table.keys]

/-- At the start every stream that is asked for has a stint, and nothing to show. -/
theorem watching_track (limit : Nat) (streams : List String) (stream : String) :
    track (.watching limit streams) stream
      = (if stream ∈ streams then some [] else none).map (trackOf limit stream) := by
  unfold track
  by_cases hs : stream ∈ streams
  · rw [if_pos ((watching_watches limit streams).mpr hs), if_pos hs, Option.map_some, trackOf_nil]
    rfl
  · rw [if_neg fun hw => hs ((watching_watches limit streams).mp hw), if_neg hs]
    rfl

/-- What is kept along all inputs. -/
theorem foldl_attended (ds : List ViewInput) (ha : Aligned v) (ho : Ordered v.watched) :
    Aligned (ds.foldl attended v) ∧ Ordered (ds.foldl attended v).watched
      ∧ ∀ stream, track (ds.foldl attended v) stream
        = ds.foldl (keep v.alertLimit stream) (track v stream) := by
  induction ds generalizing v with
  | nil => exact ⟨ha, ho, fun _ => rfl⟩
  | cons d rest ih =>
      obtain ⟨ha', ho', htrack⟩ := ih (attended_aligned ha d) (attended_ordered ho d)
      refine ⟨ha', ho', fun stream => (htrack stream).trans ?_⟩
      rw [track_attended ha, attended_limit]
      rfl

/-- So a stint is followed as its track. -/
theorem foldl_extend (limit : Nat) (stream : String) (ds : List ViewInput)
    (past : Option (List ViewInput)) :
    ds.foldl (keep limit stream) (past.map (trackOf limit stream))
      = (ds.foldl (extend stream) past).map (trackOf limit stream) := by
  induction ds generalizing past with
  | nil => rfl
  | cons d rest ih => rw [List.foldl_cons, keep_extend, ih, List.foldl_cons]

/-- Inputs about other streams may be left out. -/
theorem foldl_untouched (limit : Nat) (stream : String) (ds : List ViewInput) (t : Option Track) :
    ds.foldl (keep limit stream) t = (ds.filter (touches stream)).foldl (keep limit stream) t := by
  induction ds generalizing t with
  | nil => rfl
  | cons d rest ih =>
      cases hd : touches stream d with
      | true => rw [List.filter_cons_of_pos hd, List.foldl_cons, List.foldl_cons, ih]
      | false =>
          rw [List.filter_cons_of_neg (by rw [hd]; exact Bool.false_ne_true), List.foldl_cons,
            keep_untouched hd, ih]

end Tracks

section Monitor

variable (limit : Nat) (streams : List String) (ds : List ViewInput)

theorem monitor_kept : Aligned (monitorAfter limit streams ds)
    ∧ Ordered (monitorAfter limit streams ds).watched
    ∧ ∀ stream, track (monitorAfter limit streams ds) stream = ds.foldl (keep limit stream)
        ((if stream ∈ streams then some [] else none).map (trackOf limit stream)) := by
  have hordered := (foldl_insert (streams.map fun s => (s, ())) (t := []) .nil).1
  obtain ⟨ha, ho, htrack⟩ := foldl_attended (v := .watching limit streams) ds
    (fun stream _ => ⟨rfl, rfl⟩) hordered
  refine ⟨ha, ho, fun stream => ?_⟩
  rw [← watching_track]
  exact htrack stream

/-- **What a monitor shows of a stream is what its stint has left.** -/
theorem monitor_track (stream : String) : track (monitorAfter limit streams ds) stream
    = (stint stream streams ds).map (trackOf limit stream) :=
  ((monitor_kept limit streams ds).2.2 stream).trans (foldl_extend limit stream ds _)

/-- A stream is watched as long as its stint lasts. -/
theorem monitor_watched (stream : String) : stream ∈ (monitorAfter limit streams ds).streamIds
    ↔ (stint stream streams ds).isSome := by
  have htrack := congrArg Option.isSome (monitor_track limit streams ds stream)
  rw [Option.isSome_map] at htrack
  rw [← watches_iff, ← htrack]
  unfold track
  split
  · rename_i hwatched
    exact iff_of_true hwatched rfl
  · rename_i hwatched
    exact iff_of_false hwatched Bool.false_ne_true

/-- Who asks for a stream that is not watched is shown an empty stint. -/
theorem monitor_shown (stream : String) :
    (⟨(monitorAfter limit streams ds).snapshot stream,
      (monitorAfter limit streams ds).alerts stream⟩ : Track)
      = trackOf limit stream ((stint stream streams ds).getD []) := by
  have htrack := monitor_track limit streams ds stream
  unfold track at htrack
  split at htrack
  · obtain ⟨past, hpast, hshown⟩ := Option.map_eq_some_iff.mp htrack.symm
    rw [hpast, ← hshown]
    rfl
  · -- nothing is known of a stream that is not watched, so what is asked for is empty
    rename_i hwatched
    rw [Bool.not_eq_true] at hwatched
    obtain ⟨hsnapshot, halerts⟩ := (monitor_kept limit streams ds).1 stream hwatched
    rw [Option.map_eq_none_iff.mp htrack.symm, hsnapshot, halerts]
    exact (trackOf_nil limit stream).symm

end Monitor

/-! ## The summary -/

/-- How many streams a summary counts under a status. -/
def share (s : HealthSummary) : HealthStatus → Nat
  | .healthy => s.healthy
  | .warning => s.warning
  | .critical => s.critical
  | .offline => s.offline
  | .unknown => s.unknown

/-- A stream counts under its own status and under no other. -/
theorem share_add (s : HealthSummary) (x y : HealthStatus) :
    share (s.add x) y = share s y + if x = y then 1 else 0 := by
  cases x <;> cases y <;> rfl

theorem total_add (s : HealthSummary) (x : HealthStatus) : (s.add x).total = s.total + 1 := by
  cases x <;> simp only [HealthSummary.add, HealthSummary.total] <;> omega

/-- What a summary counts under a status is how many streams have it. -/
theorem foldl_share {α : Type} (f : α → HealthStatus) (l : List α) (s : HealthSummary)
    (y : HealthStatus) : share (l.foldl (fun s a => s.add (f a)) s) y
      = share s y + l.countP fun a => f a = y := by
  induction l generalizing s with
  | nil => rfl
  | cons a rest ih =>
      rw [List.foldl_cons, ih, share_add, List.countP_cons]
      simp only [decide_eq_true_eq]
      omega

theorem foldl_total {α : Type} (f : α → HealthStatus) (l : List α) (s : HealthSummary) :
    (l.foldl (fun s a => s.add (f a)) s).total = s.total + l.length := by
  induction l generalizing s with
  | nil => rfl
  | cons a rest ih =>
      rw [List.foldl_cons, ih, total_add, List.length_cons]
      omega

/-! ## What a monitor shows -/

/-- A monitor that was started with some streams shows what the stints of streams have left. -/
structure Monitored (limit : Nat) (streams : List String) (ds : List ViewInput) : Prop where
  /-- The streams that are watched, in order and each of them once. -/
  sorted : (monitorAfter limit streams ds).streamIds.Pairwise (· < ·)
  watched : ∀ s, s ∈ (monitorAfter limit streams ds).streamIds ↔ (stint s streams ds).isSome
  /-- The last snapshot in the stint; there is none if the stream is not watched. -/
  snapshot : ∀ s, (monitorAfter limit streams ds).snapshot s
    = (((stint s streams ds).getD []).filterMap (snapshotIn s)).getLast?
  /-- The last alerts in the stint, as many as the monitor keeps. -/
  alerts : ∀ s, (monitorAfter limit streams ds).alerts s
    = lastOf limit (((stint s streams ds).getD []).filterMap (alertIn s))
  /-- Each stream that is watched counts once, under the status that is shown of it. -/
  counted : ∀ status, share (monitorAfter limit streams ds).summary status
    = (monitorAfter limit streams ds).streamIds.countP fun s =>
      ((monitorAfter limit streams ds).snapshot s).elim .unknown (·.status) = status
  total : (monitorAfter limit streams ds).summary.total
    = (monitorAfter limit streams ds).streamIds.length
  /-- What is about other streams changes nothing that is shown of a stream. -/
  apart : ∀ s streams' ds', (s ∈ streams' ↔ s ∈ streams) →
    ds'.filter (touches s) = ds.filter (touches s) →
    track (monitorAfter limit streams' ds') s = track (monitorAfter limit streams ds) s
      ∧ (monitorAfter limit streams' ds').snapshot s = (monitorAfter limit streams ds).snapshot s
      ∧ (monitorAfter limit streams' ds').alerts s = (monitorAfter limit streams ds).alerts s

theorem monitored (limit : Nat) (streams : List String) (ds : List ViewInput) :
    Monitored limit streams ds where
  sorted := (monitor_kept limit streams ds).2.1
  watched := monitor_watched limit streams ds
  snapshot := fun s => congrArg Track.snapshot (monitor_shown limit streams ds s)
  alerts := fun s => congrArg Track.alerts (monitor_shown limit streams ds s)
  counted := by
    intro status
    unfold HealthView.summary
    rw [foldl_share]
    have hzero : share ⟨0, 0, 0, 0, 0⟩ status = 0 := by cases status <;> rfl
    rw [hzero, Nat.zero_add]
    refine List.countP_congr fun s _ => ?_
    unfold HealthView.statusOf
    cases (monitorAfter limit streams ds).snapshot s <;> rfl
  total := (foldl_total _ _ _).trans (Nat.zero_add _)
  apart := by
    intro s streams' ds' hstart hsame
    -- the stint of a stream depends on what was said of that stream only
    have htrack : track (monitorAfter limit streams' ds') s
        = track (monitorAfter limit streams ds) s := by
      rw [(monitor_kept limit streams' ds').2.2, (monitor_kept limit streams ds).2.2,
        foldl_untouched, hsame, ← foldl_untouched]
      by_cases hs : s ∈ streams
      · rw [if_pos hs, if_pos (hstart.mpr hs)]
      · rw [if_neg hs, if_neg fun hs' => hs (hstart.mp hs')]
    refine ⟨htrack, ?_⟩
    unfold track at htrack
    obtain ⟨haligned, -, -⟩ := monitor_kept limit streams ds
    obtain ⟨haligned', -, -⟩ := monitor_kept limit streams' ds'
    split at htrack
    · rename_i hwatched'
      split at htrack
      · have hshown := Option.some.inj htrack
        exact ⟨congrArg Track.snapshot hshown, congrArg Track.alerts hshown⟩
      · exact absurd htrack (by simp)
    · rename_i hunwatched'
      split at htrack
      · exact absurd htrack (by simp)
      · rename_i hunwatched
        rw [Bool.not_eq_true] at hunwatched hunwatched'
        obtain ⟨hsnapshot, halerts⟩ := haligned s hunwatched
        obtain ⟨hsnapshot', halerts'⟩ := haligned' s hunwatched'
        exact ⟨hsnapshot'.trans hsnapshot.symm, halerts'.trans halerts.symm⟩

/-- **A monitor shows of each stream what its stint has left**, whatever comes for others; and in
every run of a client a monitor shows what its inputs have made of the streams it was started
with. -/
theorem stream_stints (limit : Nat) (streams : List String) (ds : List ViewInput) :
    Monitored limit streams ds
      ∧ ∀ (parts : Parts) (setup : Setup) (hasRuntime : Bool) (stamps : Nat → Stamp)
          (as : List Action) (w : World),
        (World.initial parts setup hasRuntime stamps).actAll as = some w →
        ∀ n v, w.viewOf? n = some (.health v) →
          ∃ streams, (observed openings (.initial parts setup hasRuntime stamps) as)[n]?
              = some (.health (.watching setup.alertLimit streams))
            ∧ v = monitorAfter setup.alertLimit streams
              (observed (viewInputs n) (.initial parts setup hasRuntime stamps) as) := by
  refine ⟨monitored limit streams ds, ?_⟩
  intro parts setup hasRuntime stamps as w h n v hv
  obtain ⟨u, hu, hfresh, hkind, hafter⟩ := views_along h hv
  obtain ⟨streams, rfl⟩ := hfresh.health hkind
  rw [after_health] at hafter
  exact ⟨streams, hu, View.health.inj hafter⟩

/-- A monitor that keeps one alert is started with two streams. One of them is left and taken up
again, and what comes for it in between is passed over, as is what cannot be read. -/
def takenUpRun : List Action :=
  let arrive (topic : String) (payload : List (String × Json)) : List Action :=
    [.command (.dispatch topic (.ofMembers payload)), .go, .go]
  let update (key stream status : String) := arrive "stream.health.update"
    [(key, .string stream), ("status", .string status)]
  let alert (stream message : String) := arrive "stream.health.alert"
    [("streamId", .string stream), ("severity", .string "info"), ("message", .string message)]
  .command (.watch "board" ["b", "a", "b"]) :: update "streamId" "a" "warning"
    ++ update "eventId" "b" "critical" ++ alert "b" "one" ++ update "streamId" "c" "healthy"
    ++ [.command (.removeStream "board" "b")] ++ update "streamId" "b" "healthy"
    ++ [.command (.addStream "board" "b"), .command (.addStream "board" "b")]
    ++ alert "b" "two" ++ alert "b" "three" ++ arrive "stream.health.update" []

/-- The stream that was taken up again has no snapshot and the last alert. -/
theorem stream_stints_taken_up :
    let start := World.initial ⟨true, false, true⟩ { Setup.standard with alertLimit := 1 } true
      fun _ => ⟨"m1", .epoch⟩
    let shown : HealthView := ⟨1, [("a", ()), ("b", ())],
      [("a", ⟨"a", .warning, none, none, none, none, none⟩)],
      [("b", [⟨"b", none, .info, "three", none⟩])]⟩
    Monitored 1 ["b", "a", "b"] (observed (viewInputs 0) start takenUpRun)
      ∧ monitorAfter 1 ["b", "a", "b"] (observed (viewInputs 0) start takenUpRun) = shown
      ∧ shown.summary = ⟨0, 1, 0, 0, 1⟩
      ∧ ∃ w, start.actAll takenUpRun = some w ∧ w.viewOf? 0 = some (.health shown)
        ∧ ∃ streams, shown = monitorAfter 1 streams (observed (viewInputs 0) start takenUpRun) := by
  intro start shown
  have hafter : monitorAfter 1 ["b", "a", "b"] (observed (viewInputs 0) start takenUpRun)
      = shown := by
    decide +kernel
  have hend : (start.actAll takenUpRun).bind (fun w => w.viewOf? 0) = some (.health shown) := by
    decide +kernel
  obtain ⟨hmonitored, hrun⟩ := stream_stints 1 ["b", "a", "b"]
    (observed (viewInputs 0) start takenUpRun)
  obtain ⟨w, h, hv⟩ := Option.bind_eq_some_iff.mp hend
  obtain ⟨streams, -, hshown⟩ := hrun _ _ _ _ _ w h 0 _ hv
  exact ⟨hmonitored, hafter, by decide, w, h, hv, streams, hshown⟩

end LiveLink.Proofs
