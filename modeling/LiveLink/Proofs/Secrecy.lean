import LiveLink.Proofs.Redaction

/-!
# Secrecy

What the client does without the tokens it does with them, command by command and action by action
(`redact_act`). So whatever happens on a run happens on a run with other tokens as well, in the same
order and with the same replies, but for the URLs of attempts and for the replies to the question
for the token (`token_confinement`).
-/

namespace LiveLink

namespace World

/-! ## Commands -/

/-- The reply that is awaited is the one to a command: it is one to the question for the token if,
and only if, the command is. -/
def Awaits (told : Bool) (w : World) (c : Command) : Prop :=
  w.AsksToken told ↔ c.verb = Command.token.verb

variable {told : Bool} {w : World}

/-- A reply to a command that is not the question for the token stays as it is. -/
theorem Awaits.redact_answer {c : Command} (hw : Awaits told w c)
    (hc : c.verb ≠ Command.token.verb) (r : Reply) :
    (w.answer r).redact told = (w.redact told).answer r :=
  redact_answer_of (fun h => absurd (hw.mp h) hc) fun _ => rfl

/-- Which parts can be reached is not changed. -/
theorem redact_requiring {part : Bool} {v v' : World} (hv : v.redact told = v') :
    (w.requiring part v).redact told = (w.redact told).requiring part v' := by
  cases part with
  | true => exact hv
  | false => exact World.redact_answer rfl ..

/-- Nor is what is kept under a name, -/
theorem redact_withSubscription {name : String} {f f' : Subscription → World}
    (hf : ∀ s, (f s).redact told = f' s) :
    (w.withSubscription name f).redact told = (w.redact told).withSubscription name f' := by
  have hsubscriptions : (w.redact told).subscriptions = w.subscriptions := rfl
  unfold withSubscription
  rw [hsubscriptions]
  split
  · exact hf _
  · exact World.redact_answer rfl ..

/-- nor what a view shows. -/
theorem redact_withView {names : Table Nat} {name : String} {f f' : Nat → View → World}
    (hf : ∀ n v, (f n v).redact told = f' n v) :
    (w.withView names name f).redact told = (w.redact told).withView names name f' := by
  have hview : (w.redact told).viewOf? = w.viewOf? := rfl
  unfold withView
  rw [hview]
  split
  · exact World.redact_answer rfl ..
  · split
    · exact hf _ _
    · exact World.redact_answer rfl ..

theorem redact_withRoom {name : String} {f f' : ChatView → World}
    (hf : ∀ v, (f v).redact told = f' v) :
    (w.withRoom name f).redact told = (w.redact told).withRoom name f' := by
  refine redact_withView fun n v => ?_
  cases v with
  | chat v => exact hf v
  | _ => exact World.redact_answer rfl ..

theorem redact_withFeed {name : String} {f f' : Nat → NoticeView → World}
    (hf : ∀ n v, (f n v).redact told = f' n v) :
    (w.withFeed name f).redact told = (w.redact told).withFeed name f' := by
  refine redact_withView fun n v => ?_
  cases v with
  | notices v => exact hf n v
  | _ => exact World.redact_answer rfl ..

theorem redact_withMonitor {name : String} {f f' : Nat → HealthView → World}
    (hf : ∀ n v, (f n v).redact told = f' n v) :
    (w.withMonitor name f).redact told = (w.redact told).withMonitor name f' := by
  refine redact_withView fun n v => ?_
  cases v with
  | health v => exact hf n v
  | _ => exact World.redact_answer rfl ..

/-- A new view is told its number before the former one of its name is ended. -/
theorem redact_startNamed {former : Option Nat} {v : View} {keep : World → Nat → World}
    (hkeep : ∀ (w : World) n, (keep w n).redact told = keep (w.redact told) n) :
    (w.startNamed former v keep).redact told = (w.redact told).startNamed former v keep := by
  have hnumber : ((w.redact told).startView v).2 = (w.startView v).2 := rfl
  unfold startNamed
  dsimp only
  rw [World.redact_answer rfl, redact_endFormer, hkeep, redact_startView, hnumber]

theorem redact_endNamed {names : Table Nat} {name : String} {drop : World → World}
    (hdrop : ∀ w : World, (drop w).redact told = drop (w.redact told)) :
    (w.endNamed names name drop).redact told = (w.redact told).endNamed names name drop := by
  unfold endNamed
  split
  · rw [World.redact_answer rfl, redact_endView, hdrop]
  · exact World.redact_answer rfl ..

/-- **A command does without the tokens what it does with them.** Only the question for the token is
replied to otherwise, and a reply reaches the one who awaits it. -/
theorem redact_perform {c : Command} (hw : Awaits told w c) :
    (w.perform c).redact told = (w.redact told).perform c.redact := by
  -- but for the token and for lists, no reply has to be looked at
  have plain : ∀ (r : Reply) (v : World), r.redact = r →
      (v.answer r).redact told = (v.redact told).answer r := fun _ v hr =>
    World.redact_answer hr told v
  cases c with
  | subscribe onClient name topic full script =>
      refine redact_requiring ?_
      cases topic <;>
      · dsimp only
        rw [plain _ _ rfl, redact_subscribe]
        rfl
  | subscribeTyped name topic kind script =>
      refine redact_requiring ?_
      dsimp only
      rw [plain _ _ rfl, redact_subscribe]
      rfl
  | listen name only script =>
      refine redact_requiring ?_
      dsimp only
      rw [plain _ _ rfl, redact_listen]
      rfl
  | unsubscribe name =>
      refine redact_withSubscription fun s => ?_
      rw [plain _ _ rfl, redact_unsubscribe]
  | isActive name => exact redact_withSubscription fun s => plain _ w rfl
  | describeSubscription name => exact redact_withSubscription fun s => plain _ w rfl
  | forget name => exact redact_withSubscription fun s => plain _ _ rfl
  | receiveFrame text => exact redact_requiring (redact_dispatchFrame ..)
  | dispatch topic payload => exact redact_requiring (redact_dispatch ..)
  | countTopic topic =>
      have hcount : ((w.redact told).router.forTopic topic).length
          = (w.router.forTopic topic).length := by
        change ((w.router.map Handler.redact).forTopic topic).length = _
        rw [Registry.forTopic_map, List.length_map]
      refine redact_requiring ?_
      rw [plain _ _ rfl, hcount]
  | countCatchAll =>
      have hcount : (w.redact told).router.all.length = w.router.all.length := List.length_map ..
      refine redact_requiring ?_
      rw [plain _ _ rfl, hcount]
  | listTopics =>
      have htopics : (w.redact told).router.topicNames = w.router.topicNames :=
        Registry.topicNames_map ..
      refine redact_requiring ?_
      rw [hw.redact_answer (by simp [Command.verb]), htopics]
  | dropRouter => exact redact_requiring (plain _ _ rfl)
  | announceStatus number status => exact redact_requiring (redact_announceChange ..)
  | countListeners =>
      have hcount : (w.redact told).board.listeners.length = w.board.listeners.length :=
        List.length_map ..
      refine redact_requiring ?_
      dsimp only
      rw [hw.redact_answer (by simp [Command.verb]), hcount]
  | dropListeners => exact redact_requiring (plain _ _ rfl)
  | connect => exact redact_requiring (redact_connect ..)
  | disconnect => exact redact_requiring (redact_disconnect ..)
  | setToken token => exact redact_requiring (plain _ _ rfl)
  | send topic payload => exact redact_requiring (redact_sendReplying ..)
  | sendUnwritable topic => exact redact_requiring (plain _ _ rfl)
  | token =>
      exact redact_requiring (redact_answer_of (fun _ => rfl) fun h => absurd (hw.mpr rfl) h)
  | status => exact redact_requiring (plain _ _ rfl)
  | attempts => exact redact_requiring (plain _ _ rfl)
  | describeClient => exact redact_requiring (plain _ _ rfl)
  | joinChat name eventId => exact redact_requiring (redact_startNamed fun _ _ => rfl)
  | openFeed name => exact redact_requiring (redact_startNamed fun _ _ => rfl)
  | watch name streams => exact redact_requiring (redact_startNamed fun _ _ => rfl)
  | leaveChat name => exact redact_endNamed fun _ => rfl
  | closeFeed name => exact redact_endNamed fun _ => rfl
  | closeMonitor name => exact redact_endNamed fun _ => rfl
  | chatEvent name => exact redact_withRoom fun v => plain _ w rfl
  | chatMessages name => exact redact_withRoom fun v => hw.redact_answer (by simp [Command.verb]) _
  | chatStatus name => exact redact_withRoom fun v => hw.redact_answer (by simp [Command.verb]) _
  | say name text => exact redact_withRoom fun v => redact_sendReplying ..
  | moderate name messageId action reason =>
      exact redact_withRoom fun v => redact_sendReplying ..
  | notifications name =>
      exact redact_withFeed fun n v => hw.redact_answer (by simp [Command.verb]) _
  | notificationIds name =>
      exact redact_withFeed fun n v => hw.redact_answer (by simp [Command.verb]) _
  | unread name => exact redact_withFeed fun n v => plain _ w rfl
  | markRead name id =>
      exact redact_withFeed fun n v => redact_sendReplying told (w.setView n _) _ _
  | markAllRead name =>
      exact redact_withFeed fun n v => redact_sendReplying told (w.setView n _) _ _
  | addStream name stream =>
      refine redact_withMonitor fun n v => ?_
      split
      · exact plain _ w rfl
      · rw [plain _ _ rfl, redact_sendPayload]
        rfl
  | removeStream name stream =>
      refine redact_withMonitor fun n v => ?_
      split
      · rw [plain _ _ rfl, redact_sendPayload]
        rfl
      · exact plain _ w rfl
  | streamIds name =>
      exact redact_withMonitor fun n v => hw.redact_answer (by simp [Command.verb]) _
  | snapshot name stream =>
      exact redact_withMonitor fun n v => hw.redact_answer (by simp [Command.verb]) _
  | alerts name stream =>
      exact redact_withMonitor fun n v => hw.redact_answer (by simp [Command.verb]) _
  | summary name =>
      exact redact_withMonitor fun n v => hw.redact_answer (by simp [Command.verb]) _
  -- a failure ends the handler that runs; from outside nothing can fail
  | fail message =>
      have hstack : (w.redact told).stack = w.stack.map Frame.redact := rfl
      simp only [perform, Command.redact, hstack]
      cases hs : w.stack with
      | nil => exact plain _ w rfl
      | cons f tail =>
          cases f with
          | script owner rest awaited => exact redact_failCall told { w with stack := tail } message
          | _ => exact plain _ w rfl
  | other verb => exact plain _ w rfl

/-! ## Actions -/

/-- A step of the code that runs is of its innermost frame, and each kind of frame is redacted by
itself. -/
theorem redact_go : (w.go).map (redact told) = (w.redact told).go := by
  have hstack : (w.redact told).stack = w.stack.map Frame.redact := rfl
  unfold go
  rw [hstack]
  cases hs : w.stack with
  | nil => rfl
  | cons f tail =>
      cases f with
      | script owner rest awaited =>
          cases rest with
          | nil => exact congrArg some (redact_complete told { w with stack := tail })
          | cons c rest =>
              -- from here on the handler awaits the reply to this command
              have hawaits : Awaits told { w with
                  stack := .script owner rest (some c.verb) :: tail } c :=
                ⟨Option.some.inj, congrArg some⟩
              refine congrArg some ((redact_perform hawaits).trans ?_)
              rw [← Command.verb_redact c]
              rfl
      | delivery n e rest completed =>
          cases rest with
          | nil => exact congrArg some (World.redact_answer rfl ..)
          | cons h rest => exact congrArg some (redact_callHandler told _ h e)
      | announcement c rest =>
          cases rest with
          | nil => exact congrArg some (redact_nextChange told { w with stack := tail } c)
          | cons l rest => exact congrArg some (redact_callListener told _ l c.status)
      -- the reply is awaited by whoever asked to connect, and tells no token
      | connecting g previous =>
          refine congrArg some ((World.redact_answer rfl ..).trans ?_)
          rw [redact_startSupervisor]
          rfl
      | supervisor id next =>
          exact congrArg some (redact_resume told { w with stack := tail } id next)

/-- Whether a supervisor may take its turn depends on the stack and on its own state without the
URL. -/
theorem redact_supervisorStep {id : Nat} {stopped : Bool}
    {step step' : World → Nat → Supervisor → Option World}
    (hstep : ∀ s, (step w id s).map (redact told)
      = step' (w.redact told) id (s.redact w.setup.url)) :
    (w.supervisorStep id stopped step).map (redact told)
      = (w.redact told).supervisorStep id stopped step' := by
  have hstack : (w.redact told).stack = w.stack.map Frame.redact := rfl
  unfold supervisorStep
  rw [hstack, supervisor_redact]
  cases w.stack with
  | cons f tail => rfl
  | nil =>
      cases w.supervisors[id]? with
      | none => rfl
      | some s =>
          change (if s.stopped = stopped then step w id s else none).map (redact told)
            = if s.stopped = stopped then _ else none
          split
          · exact hstep s
          · rfl

end World

/-- Whether the last reply to the outside is to the question for the token once an action is
done. -/
def Action.tellsToken (told : Bool) : Action → Bool
  | .command c => c.verb = Command.token.verb
  | _ => told

namespace World

variable {told : Bool} {w : World}

/-- **Every action does without the tokens what it does with them.** -/
theorem redact_act (a : Action) : (w.act a).map (redact (a.tellsToken told))
    = (w.redact told).act a.redact := by
  cases a with
  | command c =>
      have hempty : (w.redact told).stack.isEmpty = w.stack.isEmpty := List.isEmpty_map ..
      simp only [act, Action.redact, hempty]
      split
      · rename_i hs
        have hs : w.stack = [] := by simpa using hs
        -- the reply goes outside, and the flag says what was asked
        have hawaits : Awaits (Action.tellsToken told (.command c)) { w with reply := none } c := by
          rw [Awaits, AsksToken, hs]
          exact decide_eq_true_iff
        have hnone : ∀ b, { w with reply := none }.redact b
            = { w.redact told with reply := none } := fun b => by cases b <;> rfl
        exact congrArg some ((redact_perform hawaits).trans (by rw [hnone]))
      · rfl
  | go => exact redact_go
  | wake id => exact redact_supervisorStep fun s => redact_wake ..
  | halt id => exact redact_supervisorStep fun s => redact_halt ..
  | answered id accepted =>
      simp only [act, Action.redact, Action.tellsToken]
      exact redact_supervisorStep fun s => redact_answered ..
  | write id => exact redact_supervisorStep fun s => redact_write ..
  | breakWrite id => exact redact_supervisorStep fun s => redact_breakWrite ..
  | read id i =>
      simp only [act, Action.redact, Action.tellsToken]
      exact redact_supervisorStep fun s => redact_read ..
  | closed id => exact redact_supervisorStep fun s => redact_closed ..
  | pass nanos =>
      have hempty : (w.redact told).stack.isEmpty = w.stack.isEmpty := List.isEmpty_map ..
      simp only [act, Action.redact, Action.tellsToken, hempty]
      split <;> rfl

/-- **So does every run.** -/
theorem redact_actAll (as : List Action) :
    (w.actAll as).map (redact (as.foldl Action.tellsToken told))
      = (w.redact told).actAll (as.map Action.redact) := by
  induction as generalizing w told with
  | nil => rfl
  | cons a rest ih =>
      rw [actAll, List.map_cons, actAll, List.foldl_cons, ← redact_act]
      cases w.act a with
      | none => rfl
      | some v => exact ih

/-- In the beginning no token is stored. -/
theorem redact_initial (parts : Parts) (setup : Setup) (hasRuntime : Bool)
    (stamps : Nat → Stamp) : (initial parts setup hasRuntime stamps).redact false
      = initial parts setup hasRuntime stamps := rfl

end World

@[simp] theorem Action.tellsToken_redact (told : Bool) (a : Action) :
    a.redact.tellsToken told = a.tellsToken told := by
  cases a with
  | command c => simp [Action.redact, Action.tellsToken]
  | _ => rfl

/-! ## What can be told apart -/

/-- Events that differ at most in the URL of an attempt or in a reply to the question for the
token. -/
inductive Event.Like : Event → Event → Prop where
  | same (e : Event) : Like e e
  | dialled (supervisor generation : Nat) (url url' : Url) :
      Like (.dialled supervisor generation url) (.dialled supervisor generation url')
  | told (name : String) (token token' : Json) :
      Like (.noted (.did name Command.token.verb (.value token)))
        (.noted (.did name Command.token.verb (.value token')))

namespace Event.Like

variable {e e' f : Event}

theorem symm (h : Like e e') : Like e' e := by
  cases h with
  | same => exact .same _
  | dialled s g url url' => exact .dialled s g url' url
  | told name token token' => exact .told name token' token

theorem trans (h : Like e e') (h' : Like e' f) : Like e f := by
  cases h with
  | same => exact h'
  | dialled s g url url' =>
      cases h' with
      | same => exact .dialled s g url url'
      | dialled _ _ _ url'' => exact .dialled s g url url''
  | told name token token' =>
      cases h' with
      | same => exact .told name token token'
      | told _ _ token'' => exact .told name token token''

/-- Redaction changes an event into one that is like it. -/
theorem redact (url : Url) (e : Event) : Like e (e.redact url) := by
  cases e with
  | dialled s g url' => exact .dialled s g url' url
  | noted n =>
      cases n with
      | did name verb reply =>
          simp only [Event.redact, Note.redact]
          split
          · rename_i hverb
            subst hverb
            cases reply with
            | value token => exact .told name token .null
            | _ => exact .same _
          · exact .same _
      | _ => exact .same _
  | _ => exact .same _

/-- So events that are redacted to the same one are like each other. -/
theorem of_redact {url : Url} (h : e'.redact url = e.redact url) : Like e e' :=
  (redact url e).trans (h ▸ (redact url e').symm)

end Event.Like

namespace Proofs

/-- Two worlds that can be told apart by nothing but the token that is stored, the URLs of attempts
and the replies to the question for the token. The flag tells whether the last reply to the outside
is one of these. -/
structure Indistinguishable (told : Bool) (w w' : World) : Prop where
  redacted : w'.redact told = w.redact told
  /-- The same has happened in the same order: what was delivered, announced, sent, written, read,
  counted and warned about, and when who asked for a socket. -/
  history : List.Forall₂ Event.Like w.history w'.history
  link : w'.link = { w.link with token := w'.link.token }
  reply : told = false → w'.reply = w.reply
  views : w'.adapters = w.adapters
  queues : w'.sockets = w.sockets
  text : w'.describeClient = w.describeClient

theorem indistinguishable_of_redact {told : Bool} {w w' : World}
    (h : w'.redact told = w.redact told) : Indistinguishable told w w' := by
  -- each part of the two worlds is the same part of the one redacted world
  have hsetup : w'.setup = w.setup := (congrArg World.setup h :)
  have hlink : w'.link.redact = w.link.redact := (congrArg World.link h :)
  have hhistory : w'.history.map (Event.redact w'.setup.url)
      = w.history.map (Event.redact w.setup.url) := (congrArg World.history h :)
  have hreply : (w'.redact told).reply = (w.redact told).reply := congrArg World.reply h
  exact {
    redacted := h
    history := by
      rw [hsetup] at hhistory
      have hsame := List.forall₂_eq_eq_eq ▸ hhistory.symm
      rw [List.forall₂_map_left_iff, List.forall₂_map_right_iff] at hsame
      exact hsame.imp fun _ _ he => Event.Like.of_redact he.symm
    link := (congrArg (fun l : Link => { l with token := w'.link.token }) hlink :)
    reply := fun htold => by simpa [World.redact, htold] using hreply
    views := (congrArg World.adapters h :)
    queues := (congrArg World.sockets h :)
    text := (congrArg World.describeClient h :) }

/-- **The token is confined.** On every run each attempt goes to the URL of the client with the
token that was stored last before it, and keeps it; and a run with the same commands, the same
outcomes and other tokens is possible too, and can be told apart from the first by nothing but the
token itself and those URLs. -/
theorem token_confinement {parts : Parts} {setup : Setup} {hasRuntime : Bool}
    {stamps : Nat → Stamp} {as : List Action} {w : World}
    (h : (World.initial parts setup hasRuntime stamps).actAll as = some w) :
    Addressed setup
        ((observed tokens (World.initial parts setup hasRuntime stamps) as).getLast?.getD none) w
      ∧ ∀ as', as'.map Action.redact = as.map Action.redact →
        ∃ w', (World.initial parts setup hasRuntime stamps).actAll as' = some w'
          ∧ Indistinguishable (as.foldl Action.tellsToken false) w w' := by
  refine ⟨addressed_reachable h, fun as' has => ?_⟩
  have hfold : ∀ l : List Action, (l.map Action.redact).foldl Action.tellsToken false
      = l.foldl Action.tellsToken false := fun l => by simp [List.foldl_map]
  -- what is told at the end depends on the kinds of the commands only
  have htold : as'.foldl Action.tellsToken false = as.foldl Action.tellsToken false := by
    rw [← hfold, has, hfold]
  have hruns : ∀ l, ((World.initial parts setup hasRuntime stamps).actAll l).map
      (World.redact (l.foldl Action.tellsToken false))
      = (World.initial parts setup hasRuntime stamps).actAll (l.map Action.redact) := fun l => by
    rw [World.redact_actAll, World.redact_initial]
  have hsame := hruns as'
  rw [has, ← hruns as, htold, h, Option.map_some] at hsame
  -- both runs are the same run without the tokens
  obtain ⟨w', hw', hredact⟩ := Option.map_eq_some_iff.mp hsame
  exact ⟨w', hw', indistinguishable_of_redact hredact⟩

/-- A listener that stores another token from its second run on, and asks for the token. -/
def renewal (token : String) : Script
  | 0 => [.token]
  | _ + 1 => [.setToken (some token), .token]

/-- A token is stored, and the first attempt fails. When the second one is announced, a listener
stores another token and asks for it; in the end the application asks for it too. -/
def renewedRun (early late : String) : List Action :=
  List.flatten [[.command (.setToken (some early)),
      .command (.listen "guest" (some .connecting) (renewal late)), .command .connect],
    List.replicate 6 .go, [.wake 0, .answered 0 false], List.replicate 4 .go,
    [.pass 1000000000, .wake 0], List.replicate 7 .go, [.command .token]]

/-- Two such runs go to other URLs, and are otherwise alike. -/
theorem token_confinement_renewed :
    ∃ w w', (World.initial ⟨true, false, true⟩ .standard true fun _ => ⟨"m1", .epoch⟩).actAll
        (renewedRun "early" "late") = some w
      ∧ (World.initial ⟨true, false, true⟩ .standard true fun _ => ⟨"m1", .epoch⟩).actAll
        (renewedRun "first" "second") = some w'
      ∧ (attempts w).map (fun t => t.url.query?) = [some "token=early", some "token=late"]
      ∧ (attempts w').map (fun t => t.url.query?) = [some "token=first", some "token=second"]
      ∧ Addressed .standard (some "late") w ∧ Indistinguishable true w w' := by
  have hrun : ((World.initial ⟨true, false, true⟩ .standard true fun _ => ⟨"m1", .epoch⟩).actAll
      (renewedRun "early" "late")).map (fun w => (attempts w).map fun t => t.url.query?)
      = some [some "token=early", some "token=late"] := by
    decide +kernel
  have hrun' : ((World.initial ⟨true, false, true⟩ .standard true fun _ => ⟨"m1", .epoch⟩).actAll
      (renewedRun "first" "second")).map (fun w => (attempts w).map fun t => t.url.query?)
      = some [some "token=first", some "token=second"] := by
    decide +kernel
  have hstored : (observed tokens
      (World.initial ⟨true, false, true⟩ .standard true fun _ => ⟨"m1", .epoch⟩)
      (renewedRun "early" "late")).getLast?.getD none = some "late" := by
    decide +kernel
  have hsame : (renewedRun "first" "second").map Action.redact
      = (renewedRun "early" "late").map Action.redact := by
    -- the two listeners differ in the token they store, and that is taken out
    have hscript : (fun run => Command.redactAll (renewal "second" run))
        = fun run => Command.redactAll (renewal "late" run) :=
      funext fun run => by cases run <;> rfl
    simp [renewedRun, Action.redact, Command.redact, hscript]
  obtain ⟨w, hw, hurls⟩ := Option.map_eq_some_iff.mp hrun
  obtain ⟨haddressed, hsecret⟩ := token_confinement hw
  obtain ⟨w', hw', halike⟩ := hsecret _ hsame
  rw [hw', Option.map_some] at hrun'
  rw [hstored] at haddressed
  exact ⟨w, w', hw, hw', hurls, Option.some.inj hrun', haddressed, halike⟩

end Proofs

end LiveLink
