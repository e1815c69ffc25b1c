import MazeAgent.Proofs.Event.Bus
import MazeAgent.Proofs.Route.Path
import MazeAgent.Worker.Basic

/-!
# Courses of a worker

A course is what comes of a worker when it and its surroundings move in any order: snapshots are
published, the worker wakes up for any reason that there is, its provider answers, decisions are
received, and either end goes away. A decision is published before it is put into the queue, so it
can be on the bus, in the hands of the worker and in the slot at the same time; still none is lost,
doubled or overtaken while somebody can receive.

**Results.**
* `Worker.decide_of_answer`: an answer and what becomes of it.
* `Course.Tidy`: what has been decided and not been received is in the slot and in the hands of the
  worker.
* `Course.run_inOrder`: the decisions of a course are published and received in order.
-/

namespace MazeAgent

/-! ## Steps of the worker -/

def Reply.decision? : Reply → Option Decision
  | .decision made => some made
  | _ => none

/-- Where the worker goes after a reply. -/
def Reply.phase : Reply → Phase
  | .decision made => .sending made
  | .nothing => .waiting
  | .failure => .waiting
  | .crash => .crashed

/-- The decision that the worker has in its hands. -/
def Phase.held : Phase → Option Decision
  | .sending decision => some decision
  | _ => none

/-- How many decisions can at most be missing when nobody receives any more. A worker that has
nothing in its hands has not tried to send anything since then. -/
def Phase.room : Phase → Nat
  | .waiting => 1
  | .deciding _ => 1
  | _ => 2

@[simp] theorem Reply.held_phase (reply : Reply) : reply.phase.held = reply.decision? := by
  cases reply <;> rfl

theorem Phase.succ_length_held_le (phase : Phase) :
    phase.held.toList.length + 1 ≤ phase.room := by
  cases phase <;> simp [held, room]

theorem Phase.room_le_two (phase : Phase) : phase.room ≤ 2 := by
  cases phase <;> simp [room]

namespace Worker

variable {σ : Type} {worker later : Worker σ}

/-- The snapshot that the provider is asked about, and its reply. -/
def answer? (worker : Worker σ) (now : Nat) : Option (Snapshot × Reply) :=
  match worker.phase with
  | .deciding board => some (board, (worker.provider.decide board now worker.memory).1)
  | _ => none

/-- A worker that wakes up takes the latest snapshot, or it stops for want of a receiver or of
snapshots. -/
theorem wake_cases {wakeup : Wakeup} (h : worker.wake wakeup = some later) :
    worker.phase = .waiting ∧ (later = worker.take ∨ later = { worker with phase := .stopped } ∧
      (worker.hasReceiver = false ∨ worker.hasNews = false ∧ worker.hasSender = false)) := by
  unfold wake at h
  split at h
  · next hphase =>
    refine ⟨hphase, ?_⟩
    split at h
    · cases h
      exact Or.inl rfl
    · next hnews =>
      split at h
      · cases h
      · next hsender =>
        cases h
        exact Or.inr ⟨rfl, Or.inr ⟨by simpa using hnews, by simpa using hsender⟩⟩
  · next hphase =>
    cases h
    exact ⟨hphase, Or.inl rfl⟩
  · next hphase =>
    refine ⟨hphase, ?_⟩
    split at h
    · cases h
    · next hreceiver =>
      cases h
      exact Or.inr ⟨rfl, Or.inl (by simpa using hreceiver)⟩
  · cases h

/-- A worker that wakes up has nothing in its hands, neither before nor after. -/
theorem wake_eq_some {wakeup : Wakeup} (h : worker.wake wakeup = some later) :
    worker.phase = .waiting ∧ ∃ seen phase, phase.held = none ∧
      later = { worker with seen := seen, phase := phase } := by
  obtain ⟨hphase, rfl | ⟨rfl, -⟩⟩ := wake_cases h
  · exact ⟨hphase, worker.published, _, by cases worker.latest <;> rfl, rfl⟩
  · exact ⟨hphase, worker.seen, .stopped, rfl, rfl⟩

/-- After an answer the overlays are on the bus, and after them the decision, if there is one. -/
theorem decide_of_answer {now : Nat} {board : Snapshot} {reply : Reply}
    (h : worker.answer? now = some (board, reply)) :
    worker.phase = .deciding board ∧ ∃ (overlays : List OverlayEvent) (memory : σ),
      worker.decide now = some { worker with
      memory := memory
      bus := worker.bus.announce
        (overlays.map .overlay ++ reply.decision?.toList.map .decision)
      phase := reply.phase } := by
  unfold answer? at h
  split at h
  · next asked hphase =>
    obtain ⟨rfl, hreply⟩ := Prod.mk.inj (Option.some.inj h)
    rcases hanswer : worker.provider.decide asked now worker.memory with ⟨given, overlays, memory⟩
    rw [hanswer] at hreply
    subst hreply
    refine ⟨hphase, overlays, memory, ?_⟩
    unfold decide Bus.announce
    simp only [hphase, hanswer, List.foldl_append, List.foldl_map]
    cases given <;> rfl
  · cases h

theorem decide_of_answer_eq_none {now : Nat} (h : worker.answer? now = none) :
    worker.decide now = none := by
  unfold answer? at h
  unfold decide
  cases hphase : worker.phase with
  | deciding board =>
      rw [hphase] at h
      cases h
  | _ => rfl

/-- A decision gets into the free slot, or the worker stops because nobody can receive it. -/
theorem deliver_eq_some (h : worker.deliver = some later) :
    ∃ decision, worker.phase = .sending decision ∧
      (worker.hasReceiver = false ∧ later = { worker with phase := .stopped } ∨
        worker.hasReceiver = true ∧ worker.slot = none ∧
          later = { worker with slot := some decision, phase := .waiting }) := by
  unfold deliver at h
  split at h
  · next decision hphase =>
    refine ⟨decision, hphase, ?_⟩
    split at h
    · next hreceiver =>
      cases h
      exact Or.inl ⟨by simpa using hreceiver, rfl⟩
    · next hreceiver =>
      split at h
      · next hslot =>
        cases h
        exact Or.inr ⟨by simpa using hreceiver, hslot, rfl⟩
      · cases h
  · cases h

theorem receive_eq_some {decision : Decision} (h : worker.receive = some (decision, later)) :
    worker.slot = some decision ∧ later = { worker with slot := none } := by
  unfold receive at h
  split at h
  · next hslot =>
    cases h
    exact ⟨hslot, rfl⟩
  · cases h

theorem publish_eq_some {board : Snapshot} (h : worker.publish board = some later) :
    later = { worker with latest := some board, published := worker.published + 1 } := by
  unfold publish at h
  split at h
  · cases h
  · cases h
    rfl

end Worker

/-! ## Courses -/

/-- What the worker or its surroundings do next. -/
inductive Move where
  | wake (wakeup : Wakeup)
  | decide (now : Nat)
  | deliver
  | publish (board : Snapshot)
  | receive
  | dropSender
  | dropReceiver
  /-- Somebody subscribes to a topic of the bus. -/
  | subscribe (topic : Topic)
  /-- The next event of a subscription is read. -/
  | read (number : Nat)
  | cancel (number : Nat)

/-- A worker and what has come of it. -/
structure Course (σ : Type) where
  worker : Worker σ
  /-- The snapshots that the provider was asked about, and its replies. -/
  calls : List (Snapshot × Reply)
  received : List Decision

namespace Course

variable {σ : Type} {course : Course σ}

/-- The decisions that the provider has made. -/
def decisions (course : Course σ) : List Decision :=
  course.calls.filterMap (fun call => call.2.decision?)

/-- The course with another worker, if there is one. -/
def goOn (course : Course σ) (worker : Option (Worker σ)) : Course σ :=
  { course with worker := worker.getD course.worker }

def withBus (course : Course σ) (bus : Bus) : Course σ :=
  { course with worker := { course.worker with bus := bus } }

/-- The course after a move. A move that is not possible changes nothing. -/
def move (course : Course σ) : Move → Course σ
  | .wake wakeup => course.goOn (course.worker.wake wakeup)
  | .decide now =>
      { course with
        worker := (course.worker.decide now).getD course.worker
        calls := course.calls ++ (course.worker.answer? now).toList }
  | .deliver => course.goOn course.worker.deliver
  | .publish board => course.goOn (course.worker.publish board)
  | .receive =>
      match course.worker.receive with
      | some (decision, worker) =>
          { course with worker := worker, received := course.received ++ [decision] }
      | none => course
  | .dropSender => { course with worker := course.worker.dropSender }
  | .dropReceiver => { course with worker := course.worker.dropReceiver }
  | .subscribe topic => course.withBus (course.worker.bus.subscribe topic).2
  | .read number =>
      match course.worker.bus.receive number with
      | some (_, bus) => course.withBus bus
      | none => course
  | .cancel number => course.withBus (course.worker.bus.cancel number)

/-- The course of a worker from its start on. -/
def run (provider : Provider σ) (memory : σ) (bus : Bus) (moves : List Move) : Course σ :=
  moves.foldl move ⟨Worker.start provider memory bus, [], []⟩

theorem run_concat (provider : Provider σ) (memory : σ) (bus : Bus) (moves : List Move)
    (move : Move) :
    run provider memory bus (moves ++ [move]) = (run provider memory bus moves).move move :=
  List.foldl_concat _ _ _ _

/-! ## The queue -/

/-- What has been decided and not been received is in the slot and in the hands of the worker,
as long as somebody can receive it. Without anybody only little is lost. -/
structure Tidy (course : Course σ) : Prop where
  of_receiver : course.worker.hasReceiver = true → course.decisions =
    course.received ++ (course.worker.slot.toList ++ course.worker.phase.held.toList)
  of_no_receiver : course.worker.hasReceiver = false → course.worker.slot = none ∧
    ∃ lost, course.decisions = course.received ++ lost ∧
      lost.length ≤ course.worker.phase.room

/-- Nothing is out of order as long as only something else changes. -/
theorem Tidy.congr {other : Course σ} (h : course.Tidy) (hcalls : other.calls = course.calls)
    (hreceived : other.received = course.received)
    (hreceiver : other.worker.hasReceiver = course.worker.hasReceiver)
    (hslot : other.worker.slot = course.worker.slot)
    (hheld : other.worker.phase.held = course.worker.phase.held)
    (hroom : course.worker.phase.room ≤ other.worker.phase.room) : other.Tidy := by
  have hdecisions : other.decisions = course.decisions := by rw [decisions, hcalls, decisions]
  refine ⟨?_, ?_⟩
  · rw [hreceiver, hdecisions, hreceived, hslot, hheld]
    exact h.of_receiver
  · rw [hreceiver, hdecisions, hreceived, hslot]
    intro hnobody
    obtain ⟨hnone, lost, hlost, hlength⟩ := h.of_no_receiver hnobody
    exact ⟨hnone, lost, hlost, hlength.trans hroom⟩

theorem Tidy.goOn {worker : Option (Worker σ)} (h : course.Tidy)
    (hworker : ∀ later, worker = some later → Tidy { course with worker := later }) :
    (course.goOn worker).Tidy := by
  cases worker with
  | none => exact h
  | some later => exact hworker later rfl

theorem decisions_decide {now : Nat} {board : Snapshot} {reply : Reply}
    (h : course.worker.answer? now = some (board, reply)) :
    (course.move (.decide now)).decisions = course.decisions ++ reply.decision?.toList := by
  change (course.calls ++ (course.worker.answer? now).toList).filterMap _ = _
  rw [h, List.filterMap_append]
  cases hreply : reply.decision? <;> simp [decisions, hreply]

theorem move_decide_of_none {now : Nat} (h : course.worker.answer? now = none) :
    course.move (.decide now) = course := by
  unfold move
  simp [h, Worker.decide_of_answer_eq_none h]

/-- The worker after a call. -/
theorem worker_decide {now : Nat} {board : Snapshot} {reply : Reply}
    (h : course.worker.answer? now = some (board, reply)) :
    course.worker.phase = .deciding board ∧ ∃ (overlays : List OverlayEvent) (memory : σ),
      (course.move (.decide now)).worker = { course.worker with
        memory := memory
        bus := course.worker.bus.announce
          (overlays.map .overlay ++ reply.decision?.toList.map .decision)
        phase := reply.phase } := by
  obtain ⟨hphase, overlays, memory, hdecide⟩ := Worker.decide_of_answer h
  refine ⟨hphase, overlays, memory, ?_⟩
  change (course.worker.decide now).getD course.worker = _
  rw [hdecide, Option.getD_some]

/-- What has not been received lies in the slot and in the hands of the worker, or it is lost. -/
theorem Tidy.exists_pending (h : course.Tidy) :
    ∃ pending, course.decisions = course.received ++ pending ∧
      pending.length ≤ course.worker.phase.room := by
  cases hreceiver : course.worker.hasReceiver with
  | false => exact (h.of_no_receiver hreceiver).2
  | true =>
      refine ⟨_, h.of_receiver hreceiver, ?_⟩
      have hroom := course.worker.phase.succ_length_held_le
      have hslot : course.worker.slot.toList.length ≤ 1 := by
        cases course.worker.slot <;> simp
      rw [List.length_append]
      omega

/-- A decision goes into the hands of the worker, which had nothing in them. -/
theorem Tidy.decide (h : course.Tidy) (now : Nat) : (course.move (.decide now)).Tidy := by
  cases hanswer : course.worker.answer? now with
  | none =>
      rw [move_decide_of_none hanswer]
      exact h
  | some answer =>
      obtain ⟨board, reply⟩ := answer
      obtain ⟨hphase, overlays, memory, hworker⟩ := worker_decide hanswer
      have hreceived : (course.move (.decide now)).received = course.received := rfl
      refine ⟨?_, ?_⟩
      · rw [decisions_decide hanswer, hworker, hreceived]
        intro hreceiver
        have hpending := h.of_receiver hreceiver
        simp only [hphase, Phase.held, Option.toList_none, List.append_nil] at hpending
        rw [hpending, Reply.held_phase, List.append_assoc]
      · rw [decisions_decide hanswer, hworker, hreceived]
        intro hnobody
        obtain ⟨hslot, lost, hlost, hlength⟩ := h.of_no_receiver hnobody
        have hroom := reply.phase.succ_length_held_le
        rw [hphase, Phase.room] at hlength
        rw [Reply.held_phase] at hroom
        refine ⟨hslot, lost ++ reply.decision?.toList, by rw [hlost, List.append_assoc], ?_⟩
        rw [List.length_append]
        dsimp only
        omega

theorem Tidy.deliver (h : course.Tidy) : (course.move .deliver).Tidy := by
  apply h.goOn
  intro later hdeliver
  obtain ⟨decision, hphase, ⟨hreceiver, rfl⟩ | ⟨hreceiver, hslot, rfl⟩⟩ :=
    Worker.deliver_eq_some hdeliver
  · -- Nobody can receive the decision, so it goes from the hands of the worker to what is lost.
    refine ⟨?_, ?_⟩
    · intro hsomebody
      rw [hreceiver] at hsomebody
      cases hsomebody
    · intro _
      obtain ⟨hslot, lost, hlost, hlength⟩ := h.of_no_receiver hreceiver
      rw [hphase] at hlength
      exact ⟨hslot, lost, hlost, hlength⟩
  · -- The decision goes into the free slot, and the order of what is pending stays the same.
    refine ⟨?_, ?_⟩
    · intro _
      have hpending := h.of_receiver hreceiver
      simpa [decisions, hslot, hphase, Phase.held] using hpending
    · intro hnobody
      rw [hreceiver] at hnobody
      cases hnobody

theorem Tidy.receive (h : course.Tidy) : (course.move .receive).Tidy := by
  unfold move
  cases hreceive : course.worker.receive with
  | none => exact h
  | some taken =>
      obtain ⟨decision, later⟩ := taken
      obtain ⟨hslot, rfl⟩ := Worker.receive_eq_some hreceive
      refine ⟨?_, ?_⟩
      · intro hreceiver
        have hpending := h.of_receiver hreceiver
        simpa [decisions, hslot] using hpending
      · intro hnobody
        have hnone := (h.of_no_receiver hnobody).1
        rw [hslot] at hnone
        cases hnone

/-- When the last receiver goes away, the slot and the hands of the worker are lost. -/
theorem Tidy.dropReceiver (h : course.Tidy) : (course.move .dropReceiver).Tidy := by
  refine ⟨fun hsomebody => (nomatch hsomebody), fun _ => ⟨rfl, ?_⟩⟩
  exact h.exists_pending

/-- No move loses, doubles or overtakes a decision. -/
theorem Tidy.move (h : course.Tidy) (move : Move) : (course.move move).Tidy := by
  cases move with
  | decide now => exact h.decide now
  | deliver => exact h.deliver
  | receive => exact h.receive
  | dropReceiver => exact h.dropReceiver
  | wake wakeup =>
      apply h.goOn
      intro later hwake
      obtain ⟨hphase, seen, phase, hheld, rfl⟩ := Worker.wake_eq_some hwake
      have hroom := phase.succ_length_held_le
      rw [hheld] at hroom
      refine h.congr rfl rfl rfl rfl ?_ ?_
      · rw [hphase, hheld]
        rfl
      · rw [hphase]
        exact hroom
  | publish board =>
      apply h.goOn
      intro later hpublish
      rw [Worker.publish_eq_some hpublish]
      exact ⟨h.of_receiver, h.of_no_receiver⟩
  | dropSender => exact ⟨h.of_receiver, h.of_no_receiver⟩
  | subscribe topic => exact ⟨h.of_receiver, h.of_no_receiver⟩
  | read number =>
      unfold Course.move
      dsimp only
      split
      · exact ⟨h.of_receiver, h.of_no_receiver⟩
      · exact h
  | cancel number => exact ⟨h.of_receiver, h.of_no_receiver⟩

theorem run_tidy (provider : Provider σ) (memory : σ) (bus : Bus) (moves : List Move) :
    (run provider memory bus moves).Tidy := by
  induction moves using List.reverseRecOn with
  | nil => exact ⟨fun _ => rfl, fun hnobody => (nomatch hnobody)⟩
  | append_singleton moves move ih =>
      rw [run_concat]
      exact ih.move move

/-! ## The bus -/

theorem bus_goOn {worker : Option (Worker σ)}
    (hworker : ∀ later, worker = some later → later.bus = course.worker.bus) :
    (course.goOn worker).worker.bus = course.worker.bus := by
  cases worker with
  | none => rfl
  | some later => exact hworker later rfl

/-- Only a call adds to the calls or publishes; other moves change no more than the subscriptions
of the bus. -/
theorem bus_move (course : Course σ) (move : Move) :
    (∃ now board reply, move = .decide now ∧
        course.worker.answer? now = some (board, reply)) ∨
      (course.move move).calls = course.calls ∧
        ((course.move move).worker.bus = course.worker.bus ∨
          (∃ topic, (course.move move).worker.bus = (course.worker.bus.subscribe topic).2) ∨
          (∃ number reading,
            course.worker.bus.receive number = some (reading, (course.move move).worker.bus)) ∨
          ∃ number, move = .cancel number ∧
            (course.move move).worker.bus = course.worker.bus.cancel number) := by
  cases move with
  | decide now =>
      cases hanswer : course.worker.answer? now with
      | none =>
          rw [move_decide_of_none hanswer]
          exact Or.inr ⟨rfl, Or.inl rfl⟩
      | some answer => exact Or.inl ⟨now, answer.1, answer.2, rfl, hanswer⟩
  | wake wakeup =>
      refine Or.inr ⟨rfl, Or.inl (bus_goOn ?_)⟩
      intro later hwake
      obtain ⟨-, seen, phase, -, rfl⟩ := Worker.wake_eq_some hwake
      rfl
  | deliver =>
      refine Or.inr ⟨rfl, Or.inl (bus_goOn ?_)⟩
      intro later hdeliver
      obtain ⟨decision, -, ⟨-, rfl⟩ | ⟨-, -, rfl⟩⟩ := Worker.deliver_eq_some hdeliver <;> rfl
  | publish board =>
      refine Or.inr ⟨rfl, Or.inl (bus_goOn ?_)⟩
      intro later hpublish
      rw [Worker.publish_eq_some hpublish]
  | receive =>
      unfold Course.move
      dsimp only
      split
      · next decision later hreceive =>
        obtain ⟨-, rfl⟩ := Worker.receive_eq_some hreceive
        exact Or.inr ⟨rfl, Or.inl rfl⟩
      · exact Or.inr ⟨rfl, Or.inl rfl⟩
  | dropSender => exact Or.inr ⟨rfl, Or.inl rfl⟩
  | dropReceiver => exact Or.inr ⟨rfl, Or.inl rfl⟩
  | subscribe topic => exact Or.inr ⟨rfl, Or.inr (Or.inl ⟨topic, rfl⟩)⟩
  | read number =>
      unfold Course.move
      dsimp only
      split
      · next reading bus hreceive =>
        exact Or.inr ⟨rfl, Or.inr (Or.inr (Or.inl ⟨number, reading, hreceive⟩))⟩
      · exact Or.inr ⟨rfl, Or.inl rfl⟩
  | cancel number => exact Or.inr ⟨rfl, Or.inr (Or.inr (Or.inr ⟨number, rfl, rfl⟩))⟩

/-- Some more decisions have been made, and they are on their channel if somebody follows it. -/
structure Adds (course later : Course σ) (made : List Decision) : Prop where
  decisions_eq : later.decisions = course.decisions ++ made
  channel_eq : later.worker.bus.channel .decision =
    if 0 < course.worker.bus.audience .decision then
      (course.worker.bus.channel .decision).sendAll (made.map .decision)
    else course.worker.bus.channel .decision

/-- A call publishes its overlays and then its decision. -/
theorem bus_decide {now : Nat} {board : Snapshot} {reply : Reply}
    (h : course.worker.answer? now = some (board, reply)) :
    ∃ overlays : List OverlayEvent, (course.move (.decide now)).worker.bus =
      course.worker.bus.announce
        (overlays.map .overlay ++ reply.decision?.toList.map .decision) := by
  obtain ⟨-, overlays, memory, hworker⟩ := worker_decide h
  exact ⟨overlays, by rw [hworker]⟩

theorem adds_decide {now : Nat} {board : Snapshot} {reply : Reply}
    (h : course.worker.answer? now = some (board, reply)) :
    course.Adds (course.move (.decide now)) reply.decision?.toList := by
  obtain ⟨overlays, hbus⟩ := bus_decide h
  refine ⟨decisions_decide h, ?_⟩
  rw [hbus, Bus.channel_announce]
  have hown : (overlays.map Event.overlay ++ reply.decision?.toList.map Event.decision).filter
      (fun event => event.topic = .decision) = reply.decision?.toList.map Event.decision := by
    simp [List.filter_append, List.filter_map, Function.comp_def, Event.topic]
  rw [hown]

theorem exists_adds (course : Course σ) (move : Move) :
    ∃ made, course.Adds (course.move move) made := by
  rcases course.bus_move move with ⟨now, board, reply, rfl, hanswer⟩ | ⟨hcalls, hbus⟩
  · exact ⟨_, adds_decide hanswer⟩
  · have hchannel : (course.move move).worker.bus.channel .decision =
        course.worker.bus.channel .decision := by
      rcases hbus with hbus | ⟨topic, hbus⟩ | ⟨number, reading, hread⟩ | ⟨number, -, hbus⟩
      · rw [hbus]
      · rw [hbus, Bus.channel_subscribe]
      · exact Bus.channel_receive hread _
      · rw [hbus, Bus.channel_cancel]
    refine ⟨[], by simp [decisions, hcalls], ?_⟩
    rw [hchannel]
    split <;> rfl

/-- A subscription stays live until it is cancelled. -/
theorem follows_move {number : Nat} {topic : Topic} {move : Move}
    (h : course.worker.bus.Follows number topic) (hmove : move ≠ .cancel number) :
    (course.move move).worker.bus.Follows number topic := by
  rcases course.bus_move move with ⟨now, board, reply, rfl, hanswer⟩ | ⟨-, hbus⟩
  · obtain ⟨overlays, hnow⟩ := bus_decide hanswer
    rw [hnow]
    exact h.announce _
  · rcases hbus with hbus | ⟨made, hbus⟩ | ⟨other, reading, hread⟩ | ⟨other, rfl, hbus⟩
    · rwa [hbus]
    · rw [hbus]
      exact h.subscribe made
    · exact h.receive hread
    · rw [hbus]
      exact h.cancel (fun heq => hmove (by rw [heq]))

/-! ## Whole courses -/

/-- What a course has put on the channel of the decisions is part of what has been decided, in
the same order. -/
theorem exists_heard (provider : Provider σ) (memory : σ) (bus : Bus) (moves : List Move) :
    ∃ heard : List Decision, heard.Sublist (run provider memory bus moves).decisions ∧
      (run provider memory bus moves).worker.bus.channel .decision =
        (bus.channel .decision).sendAll (heard.map .decision) := by
  induction moves using List.reverseRecOn with
  | nil => exact ⟨[], List.Sublist.refl _, rfl⟩
  | append_singleton moves move ih =>
      obtain ⟨heard, hsublist, hchannel⟩ := ih
      obtain ⟨made, hdecisions, hadded⟩ := exists_adds (run provider memory bus moves) move
      rw [run_concat, hdecisions, hadded, hchannel]
      split
      · refine ⟨heard ++ made, hsublist.append (List.Sublist.refl made), ?_⟩
        rw [List.map_append, Channel.sendAll_append]
      · exact ⟨heard, hsublist.trans (List.sublist_append_left _ _), rfl⟩

/-- As long as somebody follows the decisions, all of them are put on their channel. -/
theorem channel_run (provider : Provider σ) (memory : σ) (bus : Bus) (moves : List Move)
    {number : Nat} (hnumber : bus.Follows number .decision) (hmoves : .cancel number ∉ moves) :
    (run provider memory bus moves).worker.bus.Follows number .decision ∧
      (run provider memory bus moves).worker.bus.channel .decision =
        (bus.channel .decision).sendAll
          ((run provider memory bus moves).decisions.map .decision) := by
  induction moves using List.reverseRecOn with
  | nil => exact ⟨hnumber, rfl⟩
  | append_singleton moves move ih =>
      rw [List.mem_append, not_or, List.mem_singleton] at hmoves
      obtain ⟨hfollows, hchannel⟩ := ih hmoves.1
      obtain ⟨made, hdecisions, hadded⟩ := exists_adds (run provider memory bus moves) move
      rw [run_concat]
      refine ⟨follows_move hfollows (Ne.symm hmoves.2), ?_⟩
      rw [hdecisions, hadded, if_pos hfollows.audience_pos, hchannel, List.map_append,
        Channel.sendAll_append]

/-- A call that has made no decision changes neither the queue nor what is published. -/
structure IsSilent (course later : Course σ) : Prop where
  decisions_eq : later.decisions = course.decisions
  received_eq : later.received = course.received
  slot_eq : later.worker.slot = course.worker.slot
  phase_eq : later.worker.phase = .waiting
  channel_eq : later.worker.bus.channel .decision = course.worker.bus.channel .decision

theorem isSilent_decide {now : Nat} {board : Snapshot} {reply : Reply}
    (h : course.worker.answer? now = some (board, reply))
    (hreply : reply = .nothing ∨ reply = .failure) :
    course.IsSilent (course.move (.decide now)) := by
  obtain ⟨-, overlays, memory, hworker⟩ := worker_decide h
  obtain ⟨hdecisions, hchannel⟩ := adds_decide h
  have hnothing : reply.decision? = none := by rcases hreply with rfl | rfl <;> rfl
  have hphase : reply.phase = .waiting := by rcases hreply with rfl | rfl <;> rfl
  rw [hnothing] at hdecisions hchannel
  refine ⟨by simpa using hdecisions, rfl, by rw [hworker], ?_, ?_⟩
  · rw [hworker]
    exact hphase
  · rw [hchannel]
    split <;> rfl

/-- What has been received is the beginning of what has been decided, and at most two decisions are
not received yet. Every call publishes its decision once, and one without a decision changes
nothing. -/
structure InOrder (course : Course σ) : Prop where
  received_prefix : course.received <+: course.decisions
  length_le : course.decisions.length ≤ course.received.length + 2
  published : ∀ now board reply, course.worker.answer? now = some (board, reply) →
    ∃ overlays : List OverlayEvent, (course.move (.decide now)).worker.bus =
      course.worker.bus.announce (overlays.map .overlay ++ reply.decision?.toList.map .decision)
  silent : ∀ now board reply, course.worker.answer? now = some (board, reply) →
    reply = .nothing ∨ reply = .failure → course.IsSilent (course.move (.decide now))

theorem Tidy.inOrder (h : course.Tidy) : course.InOrder := by
  obtain ⟨pending, hpending, hlength⟩ := h.exists_pending
  have hroom := course.worker.phase.room_le_two
  refine ⟨⟨pending, hpending.symm⟩, ?_, fun _ _ _ => bus_decide, fun _ _ _ => isSilent_decide⟩
  rw [hpending, List.length_append]
  omega

/-- Whatever the worker and its surroundings do, the course is in order. What is published is part
of what has been decided, in the same order, and it is all of it while somebody follows the
decisions. -/
theorem run_inOrder (provider : Provider σ) (memory : σ) (bus : Bus) (moves : List Move) :
    (run provider memory bus moves).InOrder ∧
      (∃ heard : List Decision, heard.Sublist (run provider memory bus moves).decisions ∧
        (run provider memory bus moves).worker.bus.channel .decision =
          (bus.channel .decision).sendAll (heard.map .decision)) ∧
      ∀ number, bus.Follows number .decision → .cancel number ∉ moves →
        (run provider memory bus moves).worker.bus.channel .decision =
          (bus.channel .decision).sendAll
            ((run provider memory bus moves).decisions.map .decision) := by
  refine ⟨(run_tidy provider memory bus moves).inOrder,
    exists_heard provider memory bus moves, ?_⟩
  intro number hnumber hmoves
  exact (channel_run provider memory bus moves hnumber hmoves).2

/-- A bus with one subscription, to the decisions. -/
def followed : Bus := ((Bus.mk (.empty 2) (.empty 2) []).subscribe .decision).2

/-- A decision lies in the slot, and the next answer is about to come. -/
def backlog : List Move :=
  [.publish Snapshot.detour, .wake .changed, .decide 0, .subscribe .overlay, .deliver,
    .wake .interval]

theorem run_inOrder_backlog :
    followed.Follows 0 .decision ∧ .cancel 0 ∉ backlog ∧
      (run Provider.scripted [.stay, .skip] followed backlog).worker.answer? 1 =
        some (Snapshot.detour, .nothing) ∧
      (run Provider.scripted [.stay, .skip] followed backlog).decisions =
        [⟨0, .none, ⟨1, 1⟩, .replanning⟩] ∧
      (run Provider.scripted [.stay, .skip] followed backlog).worker.bus.channel .decision =
        (followed.channel .decision).sendAll
          ((run Provider.scripted [.stay, .skip] followed backlog).decisions.map .decision) ∧
      (run Provider.scripted [.stay, .skip] followed backlog).IsSilent
        ((run Provider.scripted [.stay, .skip] followed backlog).move (.decide 1)) := by
  have hfollows : followed.Follows 0 .decision := ⟨0, rfl⟩
  have hmoves : .cancel 0 ∉ backlog := by simp [backlog]
  have hanswer : (run Provider.scripted [.stay, .skip] followed backlog).worker.answer? 1 =
      some (Snapshot.detour, .nothing) := rfl
  obtain ⟨horder, -, hchannel⟩ := run_inOrder Provider.scripted [.stay, .skip] followed backlog
  exact ⟨hfollows, hmoves, hanswer, rfl, hchannel 0 hfollows hmoves,
    horder.silent 1 _ _ hanswer (Or.inl rfl)⟩

end Course
end MazeAgent
