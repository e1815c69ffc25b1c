import MazeAgent.Proofs.Worker.Course
import MazeAgent.Worker.Session

/-!
# Journals of a worker

A journal records what becomes of the snapshots when a worker, the holders of its handles and the
receiver of its decisions act in any order. Each handle can publish and can be cloned, and with the
last one the snapshots come to an end; the receiver can close the queue before it goes away. A
snapshot is lost when a newer one is published before the worker has looked, so what matters is the
number of snapshots that had been published when the worker began a step.

**Results.**
* `Journal.Sound`: a worker that is not at its provider has handed over what it has seen.
* `Journal.run_upToDate`: the provider is asked about the newest snapshot, and a worker that sees
  no news has handed over the last one.
* `Journal.run_keepsLast`: the worker does not stop before the last snapshot is handed over, unless
  nobody wants its decisions.
-/

namespace MazeAgent

namespace Worker

variable {σ : Type} {worker later : Worker σ}

/-- The worker after its queue has been closed; a decision in the slot can still be received. -/
def closeQueue (worker : Worker σ) : Worker σ := { worker with hasReceiver := false }

theorem wake_changed_of_hasNews (hphase : worker.phase = .waiting) (hnews : worker.hasNews = true) :
    worker.wake .changed = some worker.take := by
  unfold wake
  rw [hphase]
  exact if_pos hnews

theorem publish_eq_none_iff (board : Snapshot) :
    worker.publish board = none ↔ worker.isDone = true := by
  unfold publish
  split
  · next hdone => exact ⟨fun _ => hdone, fun _ => rfl⟩
  · next hdone =>
    constructor
    · intro h
      cases h
    · exact fun h => absurd h hdone

end Worker

/-! ## Journals -/

/-- What the worker or its surroundings do next. -/
inductive Incident where
  | wake (wakeup : Wakeup)
  | decide (now : Nat)
  | deliver
  | receive
  /-- A snapshot is published with some handle. -/
  | publish (board : Snapshot)
  /-- A handle is cloned. -/
  | clone
  /-- A handle is dropped. -/
  | release
  | closeQueue
  | dropReceiver
  /-- Somebody else uses the bus. -/
  | rewire (bus : Bus)

/-- The incident is a step of the worker, or a decision is received. -/
def Incident.IsInner : Incident → Prop
  | .wake _ => True
  | .decide _ => True
  | .deliver => True
  | .receive => True
  | _ => False

/-- A worker and what has become of the snapshots. -/
structure Journal (σ : Type) where
  worker : Worker σ
  /-- How many handles there are. -/
  handles : Nat
  /-- The snapshots that have been published. -/
  boards : List Snapshot
  /-- How many had been published when the worker began its last step. -/
  begun : Nat
  /-- The snapshots that the provider was asked about, each with the number of snapshots that had
  been published when that step began. -/
  calls : List (Nat × Snapshot)

namespace Journal

variable {σ : Type} {journal : Journal σ}

/-- The journal with another worker, if there is one. -/
def goOn (journal : Journal σ) (worker : Option (Worker σ)) : Journal σ :=
  { journal with worker := worker.getD journal.worker }

/-- The journal after an incident. What is not possible changes nothing. -/
def step (journal : Journal σ) : Incident → Journal σ
  | .wake wakeup =>
      match journal.worker.wake wakeup with
      | some worker => { journal with worker := worker, begun := journal.boards.length }
      | none => journal
  | .decide now =>
      match journal.worker.answer? now with
      | some (board, _) =>
          { journal.goOn (journal.worker.decide now) with
            calls := journal.calls ++ [(journal.begun, board)] }
      | none => journal
  | .deliver => journal.goOn journal.worker.deliver
  | .receive => journal.goOn (journal.worker.receive.map Prod.snd)
  | .publish board =>
      match journal.handles, journal.worker.publish board with
      | _ + 1, some worker =>
          { journal with worker := worker, boards := journal.boards ++ [board] }
      | _, _ => journal
  | .clone =>
      match journal.handles with
      | 0 => journal
      | handles + 1 => { journal with handles := handles + 2 }
  | .release =>
      match journal.handles with
      | 0 => journal
      | 1 => { journal with worker := journal.worker.dropSender, handles := 0 }
      | handles + 2 => { journal with handles := handles + 1 }
  | .closeQueue => { journal with worker := journal.worker.closeQueue }
  | .dropReceiver => { journal with worker := journal.worker.dropReceiver }
  | .rewire bus => { journal with worker := { journal.worker with bus := bus } }

/-- The journal after some incidents. -/
def follow (journal : Journal σ) (incidents : List Incident) : Journal σ :=
  incidents.foldl step journal

/-- The journal of a worker from its start on, when there is one handle. -/
def run (provider : Provider σ) (memory : σ) (bus : Bus) (incidents : List Incident) : Journal σ :=
  follow ⟨Worker.start provider memory bus, 1, [], 0, []⟩ incidents

/-- The newest of the snapshots when so many had been published. -/
def newest (journal : Journal σ) (count : Nat) : Option Snapshot :=
  (journal.boards.take count).getLast?

/-- The last snapshot that has been published, if there is one, has been handed to the provider. -/
def IsHanded (journal : Journal σ) : Prop :=
  ∀ board, journal.boards.getLast? = some board → (journal.boards.length, board) ∈ journal.calls

/-! ## Incidents -/

/-- All that can become of a journal in an incident. -/
inductive Change (journal : Journal σ) : Incident → Journal σ → Prop where
  /-- What is not possible changes nothing. -/
  | idle (incident : Incident) : Change journal incident journal
  /-- The worker begins a step. -/
  | take (wakeup : Wakeup) (hphase : journal.worker.phase = .waiting) :
      Change journal (.wake wakeup)
        { journal with worker := journal.worker.take, begun := journal.boards.length }
  /-- The worker stops for want of a receiver or of snapshots. -/
  | stop (wakeup : Wakeup) (hphase : journal.worker.phase = .waiting)
      (hreason : journal.worker.hasReceiver = false ∨
        journal.worker.hasNews = false ∧ journal.worker.hasSender = false) :
      Change journal (.wake wakeup) { journal with
        worker := { journal.worker with phase := .stopped }
        begun := journal.boards.length }
  /-- The provider is asked. -/
  | ask (now : Nat) (board : Snapshot) (memory : σ) (bus : Bus)
      (hphase : journal.worker.phase = .deciding board) :
      Change journal (.decide now) { journal with
        worker := { journal.worker with
          memory := memory
          bus := bus
          phase := (journal.worker.provider.decide board now journal.worker.memory).1.phase }
        calls := journal.calls ++ [(journal.begun, board)] }
  /-- The worker stops because nobody can receive its decision. -/
  | fail (decision : Decision) (hphase : journal.worker.phase = .sending decision)
      (hreceiver : journal.worker.hasReceiver = false) :
      Change journal .deliver
        { journal with worker := { journal.worker with phase := .stopped } }
  | send (decision : Decision) (hphase : journal.worker.phase = .sending decision) :
      Change journal .deliver { journal with
        worker := { journal.worker with slot := some decision, phase := .waiting } }
  | receive : Change journal .receive
      { journal with worker := { journal.worker with slot := none } }
  | publish (board : Snapshot) (hhandles : 0 < journal.handles)
      (hdone : journal.worker.isDone = false) :
      Change journal (.publish board) { journal with
        worker := { journal.worker with
          latest := some board
          published := journal.worker.published + 1 }
        boards := journal.boards ++ [board] }
  | clone (hhandles : 0 < journal.handles) :
      Change journal .clone { journal with handles := journal.handles + 1 }
  /-- A handle is dropped that is not the last one. -/
  | release (handles : Nat) (hhandles : journal.handles = handles + 2) :
      Change journal .release { journal with handles := handles + 1 }
  | releaseLast (hhandles : journal.handles = 1) :
      Change journal .release { journal with worker := journal.worker.dropSender, handles := 0 }
  | closeQueue : Change journal .closeQueue { journal with worker := journal.worker.closeQueue }
  | dropReceiver :
      Change journal .dropReceiver { journal with worker := journal.worker.dropReceiver }
  | rewire (bus : Bus) :
      Change journal (.rewire bus) { journal with worker := { journal.worker with bus := bus } }

/-- The provider answers when it is asked. -/
theorem step_decide {board : Snapshot} (hphase : journal.worker.phase = .deciding board)
    (now : Nat) : ∃ memory bus, journal.step (.decide now) = { journal with
      worker := { journal.worker with
        memory := memory
        bus := bus
        phase := (journal.worker.provider.decide board now journal.worker.memory).1.phase }
      calls := journal.calls ++ [(journal.begun, board)] } := by
  have hanswer : journal.worker.answer? now =
      some (board, (journal.worker.provider.decide board now journal.worker.memory).1) := by
    rw [Worker.answer?, hphase]
  obtain ⟨-, overlays, memory, hdecide⟩ := Worker.decide_of_answer hanswer
  have hstep : journal.step (.decide now) = { journal.goOn (journal.worker.decide now) with
      calls := journal.calls ++ [(journal.begun, board)] } := by
    unfold step
    dsimp only
    rw [hanswer]
  rw [goOn, hdecide] at hstep
  exact ⟨memory, _, hstep⟩

theorem step_change (journal : Journal σ) (incident : Incident) :
    journal.Change incident (journal.step incident) := by
  cases incident with
  | wake wakeup =>
      unfold step
      dsimp only
      split
      · next later hwake =>
        obtain ⟨hphase, rfl | ⟨rfl, hreason⟩⟩ := Worker.wake_cases hwake
        · exact .take wakeup hphase
        · exact .stop wakeup hphase hreason
      · exact .idle _
  | decide now =>
      cases hanswer : journal.worker.answer? now with
      | none =>
          unfold step
          dsimp only
          rw [hanswer]
          exact .idle _
      | some answer =>
          have hphase := (Worker.decide_of_answer hanswer).1
          obtain ⟨memory, bus, hstep⟩ := step_decide hphase now
          rw [hstep]
          exact .ask now answer.1 memory bus hphase
  | deliver =>
      change journal.Change _ (journal.goOn journal.worker.deliver)
      cases hdeliver : journal.worker.deliver with
      | none => exact .idle _
      | some later =>
          obtain ⟨decision, hphase, ⟨hreceiver, rfl⟩ | ⟨-, -, rfl⟩⟩ :=
            Worker.deliver_eq_some hdeliver
          · exact .fail decision hphase hreceiver
          · exact .send decision hphase
  | receive =>
      change journal.Change _ (journal.goOn (journal.worker.receive.map Prod.snd))
      cases hreceive : journal.worker.receive with
      | none => exact .idle _
      | some taken =>
          obtain ⟨-, hlater⟩ := Worker.receive_eq_some hreceive
          rw [goOn, Option.map_some, Option.getD_some, hlater]
          exact .receive
  | publish board =>
      unfold step
      dsimp only
      split
      · next handles later hhandles hpublish =>
        have hdone : journal.worker.isDone = false := by
          rw [← Bool.not_eq_true, ← Worker.publish_eq_none_iff board, hpublish]
          exact nofun
        rw [Worker.publish_eq_some hpublish]
        exact .publish board (by omega) hdone
      · exact .idle _
  | clone =>
      unfold step
      dsimp only
      split
      · exact .idle _
      · next handles hhandles =>
        have hchange : journal.Change .clone { journal with handles := journal.handles + 1 } :=
          .clone (by omega)
        rw [hhandles] at hchange
        exact hchange
  | release =>
      unfold step
      dsimp only
      split
      · exact .idle _
      · next hhandles => exact .releaseLast hhandles
      · next handles hhandles => exact .release handles hhandles
  | closeQueue => exact .closeQueue
  | dropReceiver => exact .dropReceiver
  | rewire bus => exact .rewire bus

/-! ## What a worker has seen -/

/-- What the worker knows of the snapshots agrees with the journal. -/
structure Sound (journal : Journal σ) : Prop where
  published_eq : journal.worker.published = journal.boards.length
  latest_eq : journal.worker.latest = journal.boards.getLast?
  seen_le : journal.worker.seen ≤ journal.boards.length
  hasSender_iff : journal.worker.hasSender = true ↔ 0 < journal.handles
  calls : ∀ count board, (count, board) ∈ journal.calls →
    count ≤ journal.worker.seen ∧ journal.newest count = some board
  sorted : (journal.calls.map Prod.fst).Pairwise (· ≤ ·)
  /-- At its provider the worker has the newest snapshot from when its step began. -/
  deciding : ∀ board, journal.worker.phase = .deciding board →
    journal.begun = journal.worker.seen ∧ journal.newest journal.worker.seen = some board
  /-- Elsewhere it has handed over what it has seen. -/
  handed : (∀ board, journal.worker.phase ≠ .deciding board) →
    ∀ board, journal.newest journal.worker.seen = some board →
      (journal.worker.seen, board) ∈ journal.calls
  stopped : journal.worker.phase = .stopped → journal.worker.hasReceiver = false ∨
    journal.handles = 0 ∧ journal.worker.seen = journal.boards.length

theorem newest_length (journal : Journal σ) :
    journal.newest journal.boards.length = journal.boards.getLast? := by
  rw [newest, List.take_length]

/-- What was the newest snapshot stays so when another one is published. -/
theorem newest_of_le {later : Journal σ} {board : Snapshot} {count : Nat}
    (hboards : later.boards = journal.boards ++ [board]) (h : count ≤ journal.boards.length) :
    later.newest count = journal.newest count := by
  rw [newest, hboards, List.take_append_of_le_length h, newest]

theorem start_sound (provider : Provider σ) (memory : σ) (bus : Bus) :
    Sound ⟨Worker.start provider memory bus, 1, [], 0, []⟩ where
  published_eq := rfl
  latest_eq := rfl
  seen_le := Nat.le_refl 0
  hasSender_iff := ⟨fun _ => Nat.one_pos, fun _ => rfl⟩
  calls _ _ h := nomatch h
  sorted := List.Pairwise.nil
  deciding _ h := nomatch h
  handed _ _ h := nomatch h
  stopped h := nomatch h

namespace Sound

/-- What the worker knows does not depend on the rest of it. -/
theorem withWorker {worker : Worker σ} (h : journal.Sound)
    (hlatest : worker.latest = journal.worker.latest)
    (hpublished : worker.published = journal.worker.published)
    (hseen : worker.seen = journal.worker.seen)
    (hsender : worker.hasSender = journal.worker.hasSender)
    (hphase : worker.phase = journal.worker.phase)
    (hreceiver : journal.worker.hasReceiver = false → worker.hasReceiver = false) :
    Sound { journal with worker := worker } where
  published_eq := hpublished.trans h.published_eq
  latest_eq := hlatest.trans h.latest_eq
  seen_le := hseen.trans_le h.seen_le
  hasSender_iff := by
    dsimp only
    rw [hsender]
    exact h.hasSender_iff
  calls := by
    dsimp only
    rw [hseen]
    exact h.calls
  sorted := h.sorted
  deciding := by
    dsimp only
    rw [hseen, hphase]
    exact h.deciding
  handed := by
    dsimp only
    rw [hseen, hphase]
    exact h.handed
  stopped := by
    dsimp only
    rw [hseen, hphase]
    intro hstopped
    exact (h.stopped hstopped).imp_left hreceiver

/-- A worker that is not at its provider can go anywhere else. To stop it needs a reason. -/
theorem withPhase {phase : Phase} {begun : Nat} (h : journal.Sound)
    (hbefore : ∀ board, journal.worker.phase ≠ .deciding board)
    (hafter : ∀ board, phase ≠ .deciding board)
    (hstopped : phase = .stopped → journal.worker.hasReceiver = false ∨
      journal.handles = 0 ∧ journal.worker.seen = journal.boards.length) :
    Sound { journal with
      worker := { journal.worker with phase := phase }
      begun := begun } where
  published_eq := h.published_eq
  latest_eq := h.latest_eq
  seen_le := h.seen_le
  hasSender_iff := h.hasSender_iff
  calls := h.calls
  sorted := h.sorted
  deciding board hphase := absurd hphase (hafter board)
  handed _ := h.handed hbefore
  stopped := hstopped

/-- As long as there is a handle, it does not matter how many there are. -/
theorem withHandles {handles : Nat} (h : journal.Sound) (hbefore : 0 < journal.handles)
    (hafter : 0 < handles) : Sound { journal with handles := handles } where
  published_eq := h.published_eq
  latest_eq := h.latest_eq
  seen_le := h.seen_le
  hasSender_iff := h.hasSender_iff.trans ⟨fun _ => hafter, fun _ => hbefore⟩
  calls := h.calls
  sorted := h.sorted
  deciding := h.deciding
  handed := h.handed
  stopped hstopped := (h.stopped hstopped).imp_right (fun hnone => absurd hnone.1 hbefore.ne')

/-- Without news the worker has seen the last snapshot. -/
theorem seen_eq (h : journal.Sound) (hnews : journal.worker.hasNews = false) :
    journal.worker.seen = journal.boards.length := by
  have hle := h.seen_le
  have hpublished := h.published_eq
  simp only [Worker.hasNews, decide_eq_false_iff_not] at hnews
  omega

/-- A worker that is not at its provider and has seen the last snapshot has handed it over. -/
theorem isHanded (h : journal.Sound) (hphase : ∀ board, journal.worker.phase ≠ .deciding board)
    (hseen : journal.worker.seen = journal.boards.length) : journal.IsHanded := by
  have hhanded := h.handed hphase
  rw [hseen, newest_length] at hhanded
  exact hhanded

/-- The step of a worker begins with the newest snapshot. -/
theorem take (h : journal.Sound) :
    Sound { journal with worker := journal.worker.take, begun := journal.boards.length } := by
  have hseen : journal.worker.take.seen = journal.boards.length := h.published_eq
  have hphase : ∀ board, journal.worker.take.phase = .deciding board ↔
      journal.boards.getLast? = some board := by
    intro board
    rw [← h.latest_eq, Worker.take]
    cases journal.worker.latest <;> simp
  refine ⟨h.published_eq, h.latest_eq, hseen.le, h.hasSender_iff, ?_, h.sorted, ?_, ?_, ?_⟩
  · intro count board hcall
    obtain ⟨hle, hnewest⟩ := h.calls count board hcall
    exact ⟨(hle.trans h.seen_le).trans hseen.ge, hnewest⟩
  · intro board hboard
    dsimp only
    rw [hseen]
    exact ⟨rfl, (newest_length _).trans ((hphase board).mp hboard)⟩
  · -- Without a snapshot to take none has been published.
    intro hnone board hboard
    dsimp only at hboard
    rw [hseen] at hboard
    exact absurd ((hphase board).mpr ((newest_length _).symm.trans hboard)) (hnone board)
  · intro hstopped
    unfold Worker.take at hstopped
    dsimp only at hstopped
    split at hstopped <;> cases hstopped

/-- The provider is asked about the snapshot that the step began with. -/
theorem ask {board : Snapshot} {worker : Worker σ} (h : journal.Sound)
    (hphase : journal.worker.phase = .deciding board)
    (hworker : Sound { journal with worker := { worker with phase := journal.worker.phase } })
    (hafter : ∀ board, worker.phase ≠ .deciding board) (hstopped : worker.phase ≠ .stopped) :
    Sound { journal with
      worker := worker
      calls := journal.calls ++ [(journal.begun, board)] } := by
  obtain ⟨hbegun, hnewest⟩ := hworker.deciding board hphase
  dsimp only at hbegun hnewest
  refine ⟨hworker.published_eq, hworker.latest_eq, hworker.seen_le, hworker.hasSender_iff, ?_, ?_,
    fun other hother => absurd hother (hafter other), ?_, fun h => absurd h hstopped⟩
  · intro count other hcall
    rcases List.mem_append.mp hcall with hcall | hcall
    · exact hworker.calls count other hcall
    · cases List.mem_singleton.mp hcall
      rw [hbegun]
      exact ⟨le_rfl, hnewest⟩
  · dsimp only
    rw [List.map_append, List.pairwise_append]
    refine ⟨h.sorted, List.pairwise_singleton _ _, ?_⟩
    intro count hcount other hother
    obtain ⟨call, hcall, rfl⟩ := List.mem_map.mp hcount
    cases List.mem_singleton.mp hother
    exact (hworker.calls call.1 call.2 hcall).1.trans hbegun.ge
  · intro _ other hother
    refine List.mem_append_right _ (List.mem_singleton.mpr ?_)
    rw [hbegun, Option.some.inj (hnewest.symm.trans hother)]

/-- A new snapshot changes nothing about the earlier ones. -/
theorem publish (h : journal.Sound) (board : Snapshot) (hdone : journal.worker.isDone = false) :
    Sound { journal with
      worker := { journal.worker with
        latest := some board
        published := journal.worker.published + 1 }
      boards := journal.boards ++ [board] } := by
  have hnewest : ∀ count ≤ journal.worker.seen,
      newest { journal with boards := journal.boards ++ [board] } count = journal.newest count :=
    fun count hcount => newest_of_le rfl (hcount.trans h.seen_le)
  have hlength : (journal.boards ++ [board]).length = journal.boards.length + 1 :=
    List.length_append
  refine ⟨?_, List.getLast?_concat.symm, ?_, h.hasSender_iff, ?_, h.sorted, ?_, ?_, ?_⟩
  · exact (congrArg (· + 1) h.published_eq).trans hlength.symm
  · exact h.seen_le.trans ((Nat.le_succ _).trans hlength.ge)
  · intro count other hcall
    obtain ⟨hle, hother⟩ := h.calls count other hcall
    exact ⟨hle, (hnewest count hle).trans hother⟩
  · intro other hother
    obtain ⟨hbegun, hseen⟩ := h.deciding other hother
    exact ⟨hbegun, (hnewest _ le_rfl).trans hseen⟩
  · intro hphase other hother
    exact h.handed hphase other ((hnewest _ le_rfl).symm.trans hother)
  · intro hstopped
    rw [Worker.isDone, show journal.worker.phase = .stopped from hstopped] at hdone
    cases hdone

theorem change {incident : Incident} {later : Journal σ} (h : journal.Sound)
    (hchange : journal.Change incident later) : later.Sound := by
  cases hchange with
  | idle => exact h
  | take wakeup hphase => exact h.take
  | stop wakeup hphase hreason =>
      refine h.withPhase (by rw [hphase]; exact fun _ => nofun) (fun _ => nofun) (fun _ => ?_)
      refine hreason.imp_right ?_
      rintro ⟨hnews, hsender⟩
      have hhandles := h.hasSender_iff
      rw [hsender] at hhandles
      exact ⟨by simpa using hhandles, h.seen_eq hnews⟩
  | ask now board memory bus hphase =>
      generalize (journal.worker.provider.decide board now journal.worker.memory).1 = reply
      refine h.ask hphase (h.withWorker rfl rfl rfl rfl rfl id) ?_ ?_
      · cases reply <;> exact fun _ => nofun
      · cases reply <;> exact nofun
  | fail decision hphase hreceiver =>
      exact h.withPhase (by rw [hphase]; exact fun _ => nofun) (fun _ => nofun)
        (fun _ => Or.inl hreceiver)
  | send decision hphase =>
      have hwaiting : Sound { journal with
          worker := { journal.worker with phase := .waiting } } :=
        h.withPhase (by rw [hphase]; exact fun _ => nofun) (fun _ => nofun) nofun
      exact hwaiting.withWorker rfl rfl rfl rfl rfl id
  | receive => exact h.withWorker rfl rfl rfl rfl rfl id
  | publish board hhandles hdone => exact h.publish board hdone
  | clone hhandles => exact h.withHandles hhandles (Nat.succ_pos _)
  | release handles hhandles => exact h.withHandles (by omega) (Nat.succ_pos _)
  | releaseLast hhandles =>
      refine ⟨h.published_eq, h.latest_eq, h.seen_le, by simp [Worker.dropSender], h.calls,
        h.sorted, h.deciding, h.handed, ?_⟩
      intro hstopped
      exact (h.stopped hstopped).imp_right (fun hnone => ⟨rfl, hnone.2⟩)
  | closeQueue => exact h.withWorker rfl rfl rfl rfl rfl (fun _ => rfl)
  | dropReceiver => exact h.withWorker rfl rfl rfl rfl rfl (fun _ => rfl)
  | rewire bus => exact h.withWorker rfl rfl rfl rfl rfl id

theorem follow (h : journal.Sound) (incidents : List Incident) :
    (journal.follow incidents).Sound := by
  induction incidents generalizing journal with
  | nil => exact h
  | cons incident incidents ih => exact ih (h.change (journal.step_change incident))

end Sound

theorem run_sound (provider : Provider σ) (memory : σ) (bus : Bus) (incidents : List Incident) :
    (run provider memory bus incidents).Sound :=
  (start_sound provider memory bus).follow incidents

/-! ## What the provider sees -/

/-- The provider is always asked about the newest snapshot, in the order in which they have been
published, and when the worker waits without news the last one has been handed over. -/
structure UpToDate (journal : Journal σ) : Prop where
  newest : ∀ count board, (count, board) ∈ journal.calls →
    0 < count ∧ journal.newest count = some board
  sorted : (journal.calls.map Prod.fst).Pairwise (· ≤ ·)
  handed : journal.worker.phase = .waiting → journal.worker.hasNews = false → journal.IsHanded

theorem Sound.upToDate (h : journal.Sound) : journal.UpToDate where
  newest := by
    intro count board hcall
    obtain ⟨-, hnewest⟩ := h.calls count board hcall
    refine ⟨Nat.pos_of_ne_zero ?_, hnewest⟩
    rintro rfl
    cases hnewest
  sorted := h.sorted
  handed := by
    intro hphase hnews
    exact h.isHanded (by rw [hphase]; exact fun _ => nofun) (h.seen_eq hnews)

/-- Whatever the worker and its surroundings do, the provider is up to date. -/
theorem run_upToDate (provider : Provider σ) (memory : σ) (bus : Bus)
    (incidents : List Incident) : (run provider memory bus incidents).UpToDate :=
  (run_sound provider memory bus incidents).upToDate

/-! ## The end of a worker -/

/-- The provider never crashes, so the worker has not crashed. -/
structure Calm (journal : Journal σ) : Prop where
  provider : ∀ board now memory, (journal.worker.provider.decide board now memory).1 ≠ .crash
  phase : journal.worker.phase ≠ .crashed

theorem Calm.change {incident : Incident} {later : Journal σ} (h : journal.Calm)
    (hchange : journal.Change incident later) : later.Calm := by
  cases hchange with
  | take =>
      refine ⟨h.provider, ?_⟩
      unfold Worker.take
      dsimp only
      split <;> exact nofun
  | stop => exact ⟨h.provider, nofun⟩
  | ask now board memory bus hphase =>
      refine ⟨h.provider, ?_⟩
      have hreply := h.provider board now journal.worker.memory
      dsimp only
      generalize (journal.worker.provider.decide board now journal.worker.memory).1 = reply
        at hreply
      cases reply with
      | crash => exact absurd rfl hreply
      | _ => exact nofun
  | fail => exact ⟨h.provider, nofun⟩
  | send => exact ⟨h.provider, nofun⟩
  | _ => exact ⟨h.provider, h.phase⟩

theorem Calm.follow (h : journal.Calm) (incidents : List Incident) :
    (journal.follow incidents).Calm := by
  induction incidents generalizing journal with
  | nil => exact h
  | cons incident incidents ih => exact ih (h.change (journal.step_change incident))

/-- A worker that has stopped does not start again. -/
theorem Change.stopped {incident : Incident} {later : Journal σ}
    (hchange : journal.Change incident later) (h : journal.worker.phase = .stopped) :
    later.worker.phase = .stopped := by
  cases hchange with
  | take wakeup hphase => exact nomatch h.symm.trans hphase
  | ask now board memory bus hphase => exact nomatch h.symm.trans hphase
  | send decision hphase => exact nomatch h.symm.trans hphase
  | stop => rfl
  | fail => rfl
  | _ => exact h

theorem follow_stopped (h : journal.worker.phase = .stopped) (incidents : List Incident) :
    (journal.follow incidents).worker.phase = .stopped := by
  induction incidents generalizing journal with
  | nil => exact h
  | cons incident incidents ih => exact ih ((journal.step_change incident).stopped h)

/-- The worker and the receiver of its decisions neither publish nor go away. -/
theorem Change.inner {incident : Incident} {later : Journal σ}
    (hchange : journal.Change incident later) (h : incident.IsInner) :
    later.boards = journal.boards ∧ later.worker.hasReceiver = journal.worker.hasReceiver := by
  cases hchange with
  | publish => exact h.elim
  | closeQueue => exact h.elim
  | dropReceiver => exact h.elim
  | _ => exact ⟨rfl, rfl⟩

theorem follow_inner {incidents : List Incident} (h : ∀ incident ∈ incidents, incident.IsInner) :
    (journal.follow incidents).boards = journal.boards ∧
      (journal.follow incidents).worker.hasReceiver = journal.worker.hasReceiver := by
  induction incidents generalizing journal with
  | nil => exact ⟨rfl, rfl⟩
  | cons incident incidents ih =>
      obtain ⟨hincident, hincidents⟩ := List.forall_mem_cons.mp h
      obtain ⟨hboards, hreceiver⟩ := (journal.step_change incident).inner hincident
      obtain ⟨hboards', hreceiver'⟩ := @ih (journal.step incident) hincidents
      exact ⟨hboards'.trans hboards, hreceiver'.trans hreceiver⟩

theorem follow_append (journal : Journal σ) (incidents later : List Incident) :
    journal.follow (incidents ++ later) = (journal.follow incidents).follow later :=
  List.foldl_append

/-- Once the slot is free, the worker gets rid of its decision. -/
theorem follow_sending {decision : Decision} (hphase : journal.worker.phase = .sending decision)
    (hreceiver : journal.worker.hasReceiver = true) :
    (journal.follow [.receive, .deliver]).worker.phase = .waiting := by
  simp only [follow, List.foldl_cons, List.foldl_nil, step, goOn, Worker.receive, Worker.deliver]
  cases hslot : journal.worker.slot <;> simp [hphase, hreceiver, hslot]

/-- The worker gets back to waiting, as long as its decisions are received. -/
theorem exists_waiting (h : journal.Calm) (hphase : journal.worker.phase ≠ .stopped)
    (hreceiver : journal.worker.hasReceiver = true) :
    ∃ incidents : List Incident, (∀ incident ∈ incidents, incident.IsInner) ∧
      (journal.follow incidents).worker.phase = .waiting := by
  have hsending : ∀ incident ∈ [Incident.receive, .deliver], incident.IsInner := by
    simp [Incident.IsInner]
  cases hcurrent : journal.worker.phase with
  | waiting => exact ⟨[], by simp, hcurrent⟩
  | stopped => exact absurd hcurrent hphase
  | crashed => exact absurd hcurrent h.phase
  | sending decision =>
      exact ⟨[.receive, .deliver], hsending, follow_sending hcurrent hreceiver⟩
  | deciding board =>
      obtain ⟨memory, bus, hstep⟩ := step_decide hcurrent 0
      have hreply := h.provider board 0 journal.worker.memory
      have hnext : (journal.step (.decide 0)).worker.phase =
          (journal.worker.provider.decide board 0 journal.worker.memory).1.phase := by rw [hstep]
      have hopen : (journal.step (.decide 0)).worker.hasReceiver = true := by
        rw [hstep]
        exact hreceiver
      generalize (journal.worker.provider.decide board 0 journal.worker.memory).1 = reply
        at hreply hnext
      cases reply with
      | crash => exact absurd rfl hreply
      | nothing => exact ⟨[.decide 0], by simp [Incident.IsInner], hnext⟩
      | failure => exact ⟨[.decide 0], by simp [Incident.IsInner], hnext⟩
      | decision made =>
          refine ⟨[.decide 0, .receive, .deliver], ?_, follow_sending hnext hopen⟩
          simp [Incident.IsInner]

/-- A worker that waits can hand over the last snapshot. -/
theorem Sound.exists_handed (h : journal.Sound) (hphase : journal.worker.phase = .waiting) :
    ∃ incidents : List Incident, (∀ incident ∈ incidents, incident.IsInner) ∧
      (journal.follow incidents).IsHanded := by
  cases hnews : journal.worker.hasNews with
  | false =>
      exact ⟨[], by simp, h.isHanded (by rw [hphase]; exact fun _ => nofun) (h.seen_eq hnews)⟩
  | true =>
      have hinner : ∀ incident ∈ [Incident.wake .changed, .decide 0], incident.IsInner := by
        simp [Incident.IsInner]
      refine ⟨[.wake .changed, .decide 0], hinner, ?_⟩
      have hwake : journal.step (.wake .changed) =
          { journal with worker := journal.worker.take, begun := journal.boards.length } := by
        unfold step
        dsimp only
        rw [Worker.wake_changed_of_hasNews hphase hnews]
      have hpos : journal.boards ≠ [] := by
        intro hnil
        have hpublished := h.published_eq
        rw [hnil] at hpublished
        simp [Worker.hasNews, hpublished] at hnews
      have htake : journal.worker.take.phase = .deciding (journal.boards.getLast hpos) := by
        rw [Worker.take, h.latest_eq, List.getLast?_eq_some_getLast hpos]
      have hdeciding : (journal.step (.wake .changed)).worker.phase =
          .deciding (journal.boards.getLast hpos) := by
        rw [hwake]
        exact htake
      obtain ⟨memory, bus, hdecide⟩ := step_decide hdeciding 0
      have hsound := h.follow [.wake .changed, .decide 0]
      change ((journal.step (.wake .changed)).step (.decide 0)).Sound at hsound
      change ((journal.step (.wake .changed)).step (.decide 0)).IsHanded
      rw [hdecide] at hsound ⊢
      refine hsound.isHanded ?_ ?_
      · dsimp only
        generalize ((journal.step (.wake .changed)).worker.provider.decide _ 0 _).1 = reply
        cases reply <;> exact fun _ => nofun
      · rw [hwake]
        exact h.published_eq

/-- The worker stops only when nobody can receive its decisions, or when there are no handles any
more and the last snapshot has been handed over. Until then snapshots can be published, and after
that none can. -/
structure KeepsLast (journal : Journal σ) : Prop where
  stopped : journal.worker.phase = .stopped →
    journal.worker.hasReceiver = false ∨ journal.handles = 0 ∧ journal.IsHanded
  /-- While somebody receives the decisions, the worker needs nobody else to hand over the last
  snapshot. -/
  handed : journal.worker.hasReceiver = true →
    ∃ incidents : List Incident, (∀ incident ∈ incidents, incident.IsInner) ∧
      (journal.follow incidents).boards = journal.boards ∧ (journal.follow incidents).IsHanded
  refused : ∀ session : Session σ, session.worker = journal.worker → ∀ board,
    session.publish board = .error .snapshotsClosed ↔ journal.worker.phase = .stopped
  final : journal.worker.phase = .stopped →
    ∀ incidents, (journal.follow incidents).worker.phase = .stopped

theorem Sound.stopped_cases (h : journal.Sound) (hphase : journal.worker.phase = .stopped) :
    journal.worker.hasReceiver = false ∨ journal.handles = 0 ∧ journal.IsHanded := by
  refine (h.stopped hphase).imp_right ?_
  rintro ⟨hhandles, hseen⟩
  exact ⟨hhandles, h.isHanded (by rw [hphase]; exact fun _ => nofun) hseen⟩

theorem Calm.publish_eq_error_iff (h : journal.Calm) {session : Session σ}
    (hworker : session.worker = journal.worker) {board : Snapshot} :
    session.publish board = .error .snapshotsClosed ↔ journal.worker.phase = .stopped := by
  have hdone : journal.worker.isDone = true ↔ journal.worker.phase = .stopped := by
    have hphase := h.phase
    unfold Worker.isDone
    cases hcurrent : journal.worker.phase with
    | crashed => exact absurd hcurrent hphase
    | _ => simp
  rw [← hdone, ← Worker.publish_eq_none_iff board, ← hworker]
  unfold Session.publish
  cases session.worker.publish board with
  | none => exact ⟨fun _ => rfl, fun _ => rfl⟩
  | some later =>
      constructor <;> intro h <;> cases h

theorem Sound.keepsLast (h : journal.Sound) (hcalm : journal.Calm) : journal.KeepsLast where
  stopped := h.stopped_cases
  handed := by
    intro hreceiver
    by_cases hstopped : journal.worker.phase = .stopped
    · rcases h.stopped_cases hstopped with hnobody | ⟨-, hhanded⟩
      · rw [hreceiver] at hnobody
        cases hnobody
      · exact ⟨[], by simp, rfl, hhanded⟩
    · obtain ⟨incidents, hinner, hwaiting⟩ := exists_waiting hcalm hstopped hreceiver
      obtain ⟨later, hlater, hhanded⟩ := (h.follow incidents).exists_handed hwaiting
      rw [← follow_append] at hhanded
      have hall : ∀ incident ∈ incidents ++ later, incident.IsInner :=
        List.forall_mem_append.mpr ⟨hinner, hlater⟩
      exact ⟨incidents ++ later, hall, (follow_inner hall).1, hhanded⟩
  refused session hworker board := hcalm.publish_eq_error_iff hworker
  final := follow_stopped

/-- Whatever the surroundings of a worker with a provider that does not crash do, the last snapshot
is not lost while somebody receives the decisions. -/
theorem run_keepsLast (provider : Provider σ)
    (hcalm : ∀ board now memory, (provider.decide board now memory).1 ≠ .crash) (memory : σ)
    (bus : Bus) (incidents : List Incident) : (run provider memory bus incidents).KeepsLast := by
  have hstart : Calm ⟨Worker.start provider memory bus, 1, [], 0, []⟩ := ⟨hcalm, nofun⟩
  exact (run_sound provider memory bus incidents).keepsLast (hstart.follow incidents)

/-- The provider that stays where it is, whatever happens. -/
def staying : Provider Unit where
  decide board _ _ := (Provider.Cue.stay.reply board, [], ())

/-- The last handle goes away while the worker is at its provider, after another snapshot has been
published. -/
def farewell : List Incident :=
  [.publish Snapshot.detour, .wake .changed, .clone, .release,
    .publish { Snapshot.detour with sequence := 1 }, .release, .decide 0, .deliver]

theorem run_keepsLast_farewell :
    (∀ board now memory, (staying.decide board now memory).1 ≠ .crash) ∧
      (run staying () ⟨.empty 2, .empty 2, []⟩ farewell).worker.hasReceiver = true ∧
      ∃ incidents : List Incident,
        (run staying () ⟨.empty 2, .empty 2, []⟩ (farewell ++ incidents)).IsHanded := by
  have hcalm : ∀ board now memory, (staying.decide board now memory).1 ≠ .crash :=
    fun _ _ _ => nofun
  have hreceiver :
      (run staying () ⟨.empty 2, .empty 2, []⟩ farewell).worker.hasReceiver = true := rfl
  obtain ⟨incidents, -, -, hhanded⟩ :=
    (run_keepsLast staying hcalm () ⟨.empty 2, .empty 2, []⟩ farewell).handed hreceiver
  refine ⟨hcalm, hreceiver, incidents, ?_⟩
  rw [run, follow_append]
  exact hhanded

end Journal
end MazeAgent
