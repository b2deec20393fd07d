import NotebookExecution.Execution.Sessions

/-! What a session stands at: its own status, that of its runtime and whether the worker process
lives. A step of the session moves these three as an automaton of their own. -/

namespace NotebookExecution.Execution

variable {ν : Type} {I : Interpreter ν}

namespace Kind

def isCell : Kind → Bool
  | .executeCell _ _ => true
  | _ => false

def isReset : Kind → Bool
  | .reset _ => true
  | _ => false

def own : Kind → Bool
  | .installPackages _ _ | .verifyPackages _ => false
  | _ => true

end Kind

def Phase.switching : Phase → Bool
  | .stopping _ | .starting => true
  | _ => false

def Spawn.status : Spawn → RuntimeStatus
  | .up => .running
  | .exited => .starting
  | .refused _ => .failed

def Spawn.sessionStatus : Spawn → SessionStatus
  | .up => .active
  | .exited => .starting
  | .refused _ => .failed

def SessionAction.spawn : SessionAction → Option Spawn
  | .begin _ spawn | .grant _ spawn | .joined _ spawn => some spawn
  | _ => none

structure Standing where
  session : SessionStatus
  runtime : RuntimeStatus
  alive : Bool

inductive Shift (c : OpId) : SessionAction → Kind → Phase → Phase → Standing → Standing → Prop
  | stay {a k p q σ} (hp : p.switching = true → q.switching = true)
      (hq : k.isCell = true → p = .scheduled → q.ended = true ∨ σ.session = .active) :
      Shift c a k p q σ σ
  | lost {a k p st x b} (e : Failure) (hk : k.isCell = true) (hp : p.switching = false)
      (he : p.ended = false) (hq : p = .scheduled → st = .active) (hx : x ≠ .running) :
      Shift c a k p (.raised e) ⟨st, x, b⟩ ⟨.failed, x, b⟩
  | fails {a k st x b} (e : Failure) :
      Shift c a k .polling (.raised e) ⟨st, x, b⟩ ⟨if k.isCell then .failed else st, .failed, b⟩
  | resetStops {a k p x o} (ha : Opens c a p) (hk : k.isReset = true) :
      Shift c a k p (.stopping o) ⟨.active, x, true⟩ ⟨.active, .terminating, true⟩
  | resetOpens {a k p q x} (spawn : Spawn) (ha : Opens c a p) (hs : a.spawn = some spawn)
      (hk : k.isReset = true) (hq : SpawnPhase spawn q) :
      Shift c a k p q ⟨.active, x, false⟩ ⟨.active, spawn.status, spawn = .up⟩
  | resetJoined {k q st x o} (spawn : Spawn) (hk : k.isReset = true) (hq : SpawnPhase spawn q) :
      Shift c (.joined c spawn) k (.stopping o) q ⟨st, x, false⟩ ⟨st, spawn.status, spawn = .up⟩
  | resetOutlived {k st x o} (spawn : Spawn) (e : Failure) (hk : k.isReset = true) :
      Shift c (.joined c spawn) k (.stopping o) (.raised e) ⟨st, x, true⟩ ⟨st, .terminated, true⟩
  | resetEnds {k q st x b} (hk : k.isReset = true) (hq : q.ended = true) :
      Shift c (.startEnds c) k .starting q ⟨st, x, b⟩ ⟨st, if b then .running else .failed, b⟩
  | stops {a p st x o} (ha : Opens c a p) (hs : st ≠ .stopping ∧ st ≠ .stopped) :
      Shift c a .stop p (.stopping o) ⟨st, x, true⟩ ⟨.stopping, .terminating, true⟩
  | stopped {a p st x y b} (ha : Opens c a p) (hs : st ≠ .stopping ∧ st ≠ .stopped)
      (hy : y = x ∧ (x = .terminating ∨ x = .terminated) ∨ y = .terminated ∧ b = false) :
      Shift c a .stop p .finished ⟨st, x, b⟩ ⟨.stopped, y, b⟩
  | stopJoined {st x b o} (spawn : Spawn) :
      Shift c (.joined c spawn) .stop (.stopping o) .finished ⟨st, x, b⟩ ⟨.stopped, .terminated, b⟩
  | startFinds {a p st b} (ha : Opens c a p) :
      Shift c a .start p .finished ⟨st, .running, b⟩ ⟨.active, .running, b⟩
  | startBounces {a p st x} (e : Failure) (ha : Opens c a p) :
      Shift c a .start p (.raised e) ⟨st, x, true⟩ ⟨.failed, x, true⟩
  | startOpens {a p q st x} (spawn : Spawn) (ha : Opens c a p) (hq : SpawnPhase spawn q) :
      Shift c a .start p q ⟨st, x, false⟩ ⟨spawn.sessionStatus, spawn.status, spawn = .up⟩
  | startEnds {q st x b} (hq : q.ended = true) :
      Shift c (.startEnds c) .start .starting q ⟨st, x, b⟩
        ⟨if b then .active else .failed, if b then .running else .failed, b⟩

namespace PythonRuntime

variable {r b : PythonRuntime ν}

lemma stop_suspends (h : r.stop = (b, true)) : r.alive = true ∧ b.status = .terminating ∧ b.alive = true := by
  rw [stop] at h
  split at h
  · cases h
  · split at h
    · next ha =>
      cases h
      exact ⟨ha, rfl, ha⟩
    · cases h

lemma stop_returns (h : r.stop = (b, false)) :
    b.alive = r.alive ∧
      (b.status = r.status ∧ (r.status = .terminating ∨ r.status = .terminated) ∨
        b.status = .terminated ∧ r.alive = false) := by
  rw [stop] at h
  split at h
  · next hs =>
    cases h
    exact ⟨rfl, Or.inl ⟨rfl, hs⟩⟩
  · split at h
    · cases h
    · next ha =>
      cases h
      exact ⟨rfl, Or.inr ⟨rfl, by simpa using ha⟩⟩

end PythonRuntime

namespace ExecutionSession

variable {s t : ExecutionSession ν} {c : OpId} {a : SessionAction} {k : Kind} {p q : Phase}
  {r : PythonRuntime ν} {spawn : Spawn} {e : Failure}

def standing (s : ExecutionSession ν) : Standing := ⟨s.status, s.runtime.status, s.runtime.alive⟩

def Shifts (s : ExecutionSession ν) (c : OpId) (a : SessionAction) (t : ExecutionSession ν) : Prop :=
  ∃ k p q, s.ops c = some ⟨k, p⟩ ∧ t.ops = Function.update s.ops c (some ⟨k, q⟩) ∧
    Shift c a k p q s.standing t.standing

lemma stays_shifts (h : s.ops c = some ⟨k, p⟩) (ht : t.ops = Function.update s.ops c (some ⟨k, q⟩))
    (he : t.standing = s.standing) (hp : p.switching = true → q.switching = true)
    (hq : k.isCell = true → p = .scheduled → q.ended = true ∨ s.status = .active) : Shifts s c a t := by
  refine ⟨k, p, q, h, ht, ?_⟩
  rw [he]
  exact .stay hp hq

lemma opens_not_switching (ha : Opens c a p) : p.switching = false := by
  cases ha <;> rfl

lemma raise_shifts (h : s.ops c = some ⟨k, p⟩) (hp : p.switching = false) (he : p.ended = false)
    (hq : k.isCell = true → p = .scheduled → s.status = .active) : Shifts s c a (s.raise c k e) := by
  obtain ⟨e', ho⟩ := raise_ops (e := e) h
  by_cases hl : k.isCell = true ∧ s.runtime.status ≠ .running
  · refine ⟨k, p, .raised e', h, ho, ?_⟩
    have hs : (s.raise c k e).standing = ⟨.failed, s.runtime.status, s.runtime.alive⟩ := by
      cases k with
      | executeCell code timeout =>
        simp [raise, PythonRuntime.isAlive, hl.2, standing, leave, withStatus, setPhase]
      | _ => cases hl.1
    rw [hs]
    exact .lost e' hl.1 hp he (hq hl.1) hl.2
  · refine stays_shifts h ho ?_ (by simp [hp]) fun _ _ => Or.inl rfl
    cases k with
    | executeCell code timeout =>
      have hr : s.runtime.status = .running := by simpa [Kind.isCell] using hl
      simp [raise, PythonRuntime.isAlive, hr, standing, leave, setPhase]
    | _ => rfl

lemma fail_shifts (h : s.ops c = some ⟨k, .polling⟩) :
    Shifts s c a ((s.withRuntime s.runtime.fail).raise c k e) := by
  obtain ⟨e', he⟩ := raise_ops (s := s.withRuntime s.runtime.fail) (e := e) h
  refine ⟨k, .polling, .raised e', h, he, ?_⟩
  have hst : ((s.withRuntime s.runtime.fail).raise c k e).standing =
      ⟨if k.isCell then .failed else s.status, .failed, s.runtime.alive⟩ := by
    cases k <;>
      simp [raise, PythonRuntime.isAlive, PythonRuntime.fail, standing, leave, withStatus, setPhase,
        Kind.isCell, withRuntime]
  rw [hst]
  exact .fails e'

/-! ## Calls up to their first suspension -/

lemma callRuntime_shifts (h : s.ops c = some ⟨k, p⟩) (hp : p.switching = false) (he : p.ended = false)
    (hq : k.isCell = true → p = .scheduled → s.status = .active) : Shifts s c a (s.callRuntime c k) := by
  rw [callRuntime]
  split
  · exact stays_shifts h (setPhase_ops h) rfl (by simp [hp]) fun hk hs => Or.inr (hq hk hs)
  · exact raise_shifts h hp he hq

lemma enterLock_shifts {body : ExecutionSession ν → ExecutionSession ν} (h : s.ops c = some ⟨k, .scheduled⟩)
    (hk : k.isCell = true → s.status = .active)
    (hb : Shifts { s with lock := [c] } c a (body { s with lock := [c] })) :
    Shifts s c a (s.enterLock c body) := by
  rw [enterLock]
  split
  · exact hb
  · exact stays_shifts (q := .waiting) h (setPhase_ops h) rfl (fun hp => by cases hp)
      fun hc _ => Or.inr (hk hc)

lemma executeCell_shifts (h : s.ops c = some ⟨k, .scheduled⟩) (hk : k.isCell = true) :
    Shifts s c a (s.executeCell c k) := by
  rw [executeCell]
  split
  · exact stays_shifts h (leave_ops h) rfl (fun hp => by cases hp) fun _ _ => Or.inl rfl
  · next hs =>
    have hact : s.status = .active := by simpa using hs
    split
    · next hr =>
      refine ⟨k, .scheduled, _, h, leave_ops (s := s.withStatus .failed) h, ?_⟩
      exact .lost _ hk rfl rfl (fun _ => hact) (by simpa [PythonRuntime.isAlive] using hr)
    · exact enterLock_shifts h (fun _ => hact)
        (callRuntime_shifts (s := { s with lock := [c] }) h rfl rfl fun _ _ => hact)

lemma restart_spawns (spawn : Spawn) (h : s.ops c = some ⟨k, p⟩) (hb : s.runtime.alive = false) :
    ∃ q, SpawnPhase spawn q ∧ (s.restart I c spawn).ops = Function.update s.ops c (some ⟨k, q⟩) ∧
      (s.restart I c spawn).standing = ⟨s.status, spawn.status, spawn = .up⟩ := by
  simp only [restart, hb]
  cases spawn with
  | up => exact ⟨.finished, .up, leave_ops (s := s.withRuntime _) h, rfl⟩
  | exited => exact ⟨.starting, .exited, setPhase_ops (s := s.withRuntime _) h, rfl⟩
  | refused reason =>
    exact ⟨_, .refused reason _, leave_ops (s := s.withRuntime _) h, rfl⟩

lemma resetBody_shifts (h : s.ops c = some ⟨k, p⟩) (ha : Opens c a p) (hs : a.spawn = some spawn)
    (hk : k.isReset = true) : Shifts s c a (s.resetBody I c spawn) := by
  have hstay : k.isCell = false := by
    cases k <;> first | rfl | cases hk
  rw [resetBody]
  split
  · exact stays_shifts h (leave_ops h) rfl (by simp [opens_not_switching ha]) (by simp [hstay])
  · next hst =>
    have hact : s.status = .active := by simpa using hst
    split
    · next b hb =>
      obtain ⟨halive, hterm, hup⟩ := PythonRuntime.stop_suspends hb
      refine ⟨k, p, _, h, setPhase_ops (s := s.withRuntime b) h, ?_⟩
      rw [show s.standing = ⟨.active, s.runtime.status, true⟩ by simp [standing, hact, halive],
        show (((s.withRuntime b).setPhase c _).standing) = ⟨.active, .terminating, true⟩ by
          simp [standing, setPhase, withRuntime, hact, hterm, hup]]
      exact .resetStops ha hk
    · next b hb =>
      obtain ⟨halive, hor⟩ := PythonRuntime.stop_returns hb
      cases hd : b.alive with
      | true =>
        have hsame : b.status = s.runtime.status := by
          rcases hor with ⟨he, -⟩ | ⟨-, he⟩
          · exact he
          · rw [hd, he] at halive
            cases halive
        refine stays_shifts h (q := .raised (.alreadyRunning b.runtimeId)) ?_ ?_
          (by simp [opens_not_switching ha]) (by simp [hstay])
        · simp only [restart, withRuntime, hd]
          exact leave_ops (s := s.withRuntime b) h
        · simp [restart, withRuntime, hd, standing, leave, setPhase, hsame, ← halive]
      | false =>
        obtain ⟨q, hq, ho, he⟩ := restart_spawns (I := I) (s := s.withRuntime b) spawn h hd
        refine ⟨k, p, q, h, ho, ?_⟩
        rw [he, show s.standing = ⟨.active, s.runtime.status, false⟩ by
          simp [standing, hact, ← halive, hd]]
        simpa [withRuntime, hact] using Shift.resetOpens (x := s.runtime.status) spawn ha hs hk hq

lemma stop_shifts (h : s.ops c = some ⟨.stop, p⟩) (ha : Opens c a p) : Shifts s c a (s.stop c) := by
  rw [stop]
  split
  · exact stays_shifts h (leave_ops h) rfl (by simp [opens_not_switching ha]) fun hk => by cases hk
  · next hst =>
    obtain ⟨hs₁, hs₂⟩ := not_or.mp hst
    split
    · next b hb =>
      obtain ⟨halive, hterm, hup⟩ := PythonRuntime.stop_suspends hb
      refine ⟨.stop, p, _, h, setPhase_ops (s := (s.withStatus .stopping).withRuntime b) h, ?_⟩
      rw [show s.standing = ⟨s.status, s.runtime.status, true⟩ by simp [standing, halive],
        show (((s.withStatus .stopping).withRuntime b).setPhase c _).standing =
          ⟨.stopping, .terminating, true⟩ by simp [standing, setPhase, withRuntime, withStatus, hterm, hup]]
      exact .stops ha ⟨hs₁, hs₂⟩
    · next b hb =>
      obtain ⟨halive, hor⟩ := PythonRuntime.stop_returns hb
      refine ⟨.stop, p, _, h, leave_ops (s := (s.withStatus .stopped).withRuntime b) h, ?_⟩
      rw [show (((s.withStatus .stopped).withRuntime b).leave c .finished).standing =
        ⟨.stopped, b.status, s.runtime.alive⟩ by
          simp [standing, leave, setPhase, withRuntime, withStatus, halive]]
      exact .stopped ha ⟨hs₁, hs₂⟩ hor

lemma start_shifts (h : s.ops c = some ⟨.start, p⟩) (ha : Opens c a p) :
    Shifts s c a (s.start I c spawn) := by
  simp only [start]
  split
  · exact stays_shifts h (leave_ops h) rfl (by simp [opens_not_switching ha]) fun hk => by cases hk
  split
  · next hr =>
    have hrun : s.runtime.status = .running := by simpa [PythonRuntime.isAlive] using hr
    refine ⟨.start, p, _, h, leave_ops (s := s.withStatus .active) h, ?_⟩
    rw [show s.standing = ⟨s.status, .running, s.runtime.alive⟩ by simp [standing, hrun],
      show ((s.withStatus .active).leave c .finished).standing = ⟨.active, .running, s.runtime.alive⟩ by
        simp [standing, leave, setPhase, withStatus, hrun]]
    exact .startFinds ha
  split
  · next hb =>
    refine ⟨.start, p, _, h, leave_ops (s := s.withStatus .failed) h, ?_⟩
    rw [show s.standing = ⟨s.status, s.runtime.status, true⟩ by simp [standing, hb],
      show (s.startFailed c _).standing = ⟨.failed, s.runtime.status, true⟩ by
        simp [standing, startFailed, leave, setPhase, withStatus, hb]]
    exact .startBounces _ ha
  · next hb =>
    rw [Shifts, show s.standing = ⟨s.status, s.runtime.status, false⟩ by simpa [standing] using hb]
    cases spawn with
    | up =>
      exact ⟨.start, p, _, h, leave_ops (s := (s.withRuntime _).withStatus .active) h,
        .startOpens .up ha .up⟩
    | exited =>
      exact ⟨.start, p, _, h, setPhase_ops (s := (s.withRuntime _).withStatus .starting) h,
        .startOpens .exited ha .exited⟩
    | refused reason =>
      exact ⟨.start, p, _, h, leave_ops (s := (s.withRuntime _).withStatus .failed) h,
        .startOpens (.refused reason) ha (.refused reason _)⟩

lemma run_shifts (h : s.ops c = some ⟨k, .scheduled⟩) :
    Shifts s c (.begin c spawn) (s.run I c spawn k) := by
  cases k with
  | executeCell code timeout => exact executeCell_shifts h rfl
  | installPackages reqs timeout => exact callRuntime_shifts h rfl rfl fun hk => by cases hk
  | verifyPackages pkgs => exact callRuntime_shifts h rfl rfl fun hk => by cases hk
  | reset cause =>
    exact enterLock_shifts h (fun hk => by cases hk)
      (resetBody_shifts (s := { s with lock := [c] }) h (.begin spawn) rfl rfl)
  | stop => exact stop_shifts h (.begin spawn)
  | start => exact start_shifts h (.begin spawn)

lemma resumeLocked_shifts (h : s.ops c = some ⟨k, .waiting⟩)
    (ht : s.resumeLocked I c spawn k = some t) : Shifts s c (.grant c spawn) t := by
  cases k with
  | executeCell code timeout =>
    obtain rfl : _ = t := Option.some_inj.mp ht
    exact callRuntime_shifts h rfl rfl fun _ hp => by cases hp
  | reset cause =>
    obtain rfl : _ = t := Option.some_inj.mp ht
    exact resetBody_shifts h (.grant spawn) rfl rfl
  | _ => cases ht

/-! ## Threads and wake-ups -/

lemma inside_shifts (h : s.ops c = some ⟨k, p⟩) (ht : t.ops = Function.update s.ops c (some ⟨k, q⟩))
    (he : t.standing = s.standing) (hp : p.switching = true → q.switching = true) (hs : p ≠ .scheduled) :
    Shifts s c a t :=
  stays_shifts h ht he hp fun _ hq => absurd hq hs

lemma send_shifts (ht : s.send c = some t) : Shifts s c a t := by
  rw [send] at ht
  split at ht
  · next k g h =>
    split at ht <;> cases ht
    · exact inside_shifts h (setPhase_ops (s := s.sent c g k) h) rfl (fun hp => by cases hp) (by simp)
    · exact raise_shifts h rfl rfl fun _ hq => by cases hq
  · next k g h =>
    split at ht <;> cases ht
    · exact inside_shifts h (leave_ops (s := s.sent c g k) h) rfl (fun hp => by cases hp) (by simp)
    · exact inside_shifts h (leave_ops h) rfl (fun hp => by cases hp) (by simp)
  · next k g h =>
    split at ht <;> cases ht
    · exact inside_shifts h (setPhase_ops (s := s.sent c g k) h) rfl (fun _ => rfl) (by simp)
    · exact inside_shifts h (setPhase_ops h) rfl (fun _ => rfl) (by simp)
  · cases ht

lemma check_shifts (ht : s.check c = some t) : Shifts s c a t := by
  rw [check] at ht
  split at ht
  · next k h =>
    split at ht
    · cases ht
      exact inside_shifts h (setPhase_ops h) rfl (fun hp => by cases hp) (by simp)
    · cases ht
      exact fail_shifts h
  · cases ht

lemma probe_shifts (ht : s.probe c = some t) : Shifts s c a t := by
  rw [probe] at ht
  split at ht
  · next k g h =>
    split at ht
    · cases ht
      exact raise_shifts h rfl rfl fun _ hq => by cases hq
    · split at ht <;> cases ht <;>
        exact inside_shifts h (setPhase_ops h) rfl (fun hp => by cases hp) (by simp)
  · cases ht

lemma fetch_shifts (ht : s.fetch c = some t) : Shifts s c a t := by
  rw [fetch] at ht
  split at ht
  · next k h =>
    cases ht
    exact inside_shifts h (setPhase_ops h) rfl (fun hp => by cases hp) (by simp)
  · cases ht

lemma recv_shifts (ht : s.recv c = some t) : Shifts s c a t := by
  rw [recv] at ht
  split at ht
  · next k g h =>
    split at ht
    · cases ht
      exact raise_shifts h rfl rfl fun _ hq => by cases hq
    · split at ht
      · cases ht
      · cases ht
        exact inside_shifts h (leave_ops (s := s.withRuntime _) h) rfl (fun hp => by cases hp) (by simp)
  · next k g h =>
    split at ht
    · cases ht
      exact inside_shifts h (leave_ops h) rfl (fun hp => by cases hp) (by simp)
    · split at ht
      · cases ht
      · cases ht
        exact inside_shifts h (leave_ops (s := s.withRuntime _) h) rfl (fun hp => by cases hp) (by simp)
  · cases ht

lemma expire_shifts (ht : s.expire c = some t) : Shifts s c a t := by
  rw [expire] at ht
  split at ht
  · next pkgs h =>
    cases ht
    exact raise_shifts h rfl rfl fun _ hq => by cases hq
  · next k _ h =>
    cases ht
    exact fail_shifts h
  · cases ht

lemma joined_shifts (ht : s.joined I c spawn = some t) : Shifts s c (.joined c spawn) t := by
  rw [joined] at ht
  split at ht
  · next cause o h =>
    cases ht
    cases hb : s.runtime.alive with
    | true =>
      -- the start finds the process that has outlived the stop
      refine ⟨.reset cause, _, .raised (.alreadyRunning s.runtime.runtimeId), h, ?_, ?_⟩
      · have hup : s.runtime.stopped.alive = true := hb
        simp only [restart, withRuntime_runtime, hup, if_true]
        exact leave_ops (s := s.withRuntime s.runtime.stopped) h
      · rw [show s.standing = ⟨s.status, s.runtime.status, true⟩ by simp [standing, hb],
          show ((s.withRuntime s.runtime.stopped).restart I c spawn).standing = ⟨s.status, .terminated, true⟩ by
            simp [restart, standing, withRuntime, leave, setPhase, PythonRuntime.stopped, hb]]
        exact .resetOutlived spawn _ rfl
    | false =>
      obtain ⟨q, hq, ho, he⟩ := restart_spawns (I := I)
        (s := s.withRuntime s.runtime.stopped) spawn h hb
      refine ⟨.reset cause, _, q, h, ho, ?_⟩
      rw [he, show s.standing = ⟨s.status, s.runtime.status, false⟩ by simp [standing, hb]]
      exact .resetJoined spawn rfl hq
  · next o h =>
    cases ht
    exact ⟨.stop, _, _, h, leave_ops (s := (s.withRuntime s.runtime.stopped).withStatus .stopped) h,
      .stopJoined spawn⟩
  · cases ht

lemma startEnds_shifts (ht : s.startEnds c = some t) : Shifts s c (.startEnds c) t := by
  rw [startEnds] at ht
  split at ht
  · next cause h =>
    split at ht
    · next hb =>
      cases ht
      refine ⟨.reset cause, _, _, h, leave_ops (s := s.withRuntime s.runtime.confirm) h, ?_⟩
      have hsh : Shift c (.startEnds c) (.reset cause) .starting .finished
          ⟨s.status, s.runtime.status, true⟩ ⟨s.status, .running, true⟩ := .resetEnds rfl rfl
      simpa [standing, leave, setPhase, withRuntime, PythonRuntime.confirm, hb] using hsh
    · next hb =>
      cases ht
      refine ⟨.reset cause, _, _, h, leave_ops (s := s.withRuntime s.runtime.fail) h, ?_⟩
      have hsh : Shift c (.startEnds c) (.reset cause) .starting
          (.raised (exitedImmediately s.runtime.runtimeId))
          ⟨s.status, s.runtime.status, false⟩ ⟨s.status, .failed, false⟩ := .resetEnds rfl rfl
      simpa [standing, leave, setPhase, withRuntime, PythonRuntime.fail, hb] using hsh
  · next h =>
    split at ht
    · next hb =>
      cases ht
      refine ⟨.start, _, _, h,
        leave_ops (s := (s.withRuntime s.runtime.confirm).withStatus .active) h, ?_⟩
      have hsh : Shift c (.startEnds c) .start .starting .finished
          ⟨s.status, s.runtime.status, true⟩ ⟨.active, .running, true⟩ := .startEnds rfl
      simpa [standing, leave, setPhase, withRuntime, withStatus, PythonRuntime.confirm, hb] using hsh
    · next hb =>
      cases ht
      refine ⟨.start, _, _, h,
        leave_ops (s := (s.withRuntime s.runtime.fail).withStatus .failed) h, ?_⟩
      have hsh (e : Failure) : Shift c (.startEnds c) .start .starting (.raised e)
          ⟨s.status, s.runtime.status, false⟩ ⟨.failed, .failed, false⟩ := .startEnds rfl
      simpa [standing, startFailed, leave, setPhase, withRuntime, withStatus, PythonRuntime.fail, hb]
        using hsh _
  · cases ht

lemma work_standing {machine : Machine} (h : s.runtime.work I machine = some r) :
    r.status = s.runtime.status ∧ (r.alive = true → s.runtime.alive = true) := by
  rw [PythonRuntime.work] at h
  split at h
  · next ha =>
    split at h
    · cases h
    · split at h <;> cases h <;> exact ⟨rfl, fun _ => ha.1⟩
  · cases h

lemma exit_standing (h : s.runtime.exit = some r) :
    r.status = s.runtime.status ∧ (r.alive = true → s.runtime.alive = true) := by
  obtain ⟨rfl, -⟩ := PythonRuntime.exit_cases h
  exact ⟨rfl, fun ha => by cases ha⟩

theorem step_shifts (ht : s.step I a = some t) :
    (t.ops = s.ops ∧ t.status = s.status ∧ t.runtime.status = s.runtime.status ∧
      (t.runtime.alive = true → s.runtime.alive = true)) ∨ ∃ c, Shifts s c a t := by
  cases a with
  | begin c spawn =>
    simp only [step] at ht
    split at ht
    · next k h =>
      cases ht
      exact Or.inr ⟨c, run_shifts h⟩
    · cases ht
  | grant c spawn =>
    simp only [step] at ht
    split at ht
    · next k h =>
      split at ht
      · exact Or.inr ⟨c, resumeLocked_shifts h ht⟩
      · cases ht
    · cases ht
  | send c => exact Or.inr ⟨c, send_shifts ht⟩
  | work machine =>
    obtain ⟨r, hr, rfl⟩ := Option.map_eq_some_iff.mp ht
    obtain ⟨hs, ha⟩ := work_standing hr
    exact Or.inl ⟨rfl, rfl, hs, ha⟩
  | check c => exact Or.inr ⟨c, check_shifts ht⟩
  | probe c => exact Or.inr ⟨c, probe_shifts ht⟩
  | fetch c => exact Or.inr ⟨c, fetch_shifts ht⟩
  | recv c => exact Or.inr ⟨c, recv_shifts ht⟩
  | expire c => exact Or.inr ⟨c, expire_shifts ht⟩
  | joined c spawn => exact Or.inr ⟨c, joined_shifts ht⟩
  | startEnds c => exact Or.inr ⟨c, startEnds_shifts ht⟩
  | exit =>
    obtain ⟨r, hr, rfl⟩ := Option.map_eq_some_iff.mp ht
    obtain ⟨hs, ha⟩ := exit_standing hr
    exact Or.inl ⟨rfl, rfl, hs, ha⟩

end ExecutionSession

inductive CallAction
  | call (c : OpId) (k : Kind)
  | act (a : SessionAction)

namespace PythonRuntime

def new (I : Interpreter ν) (runtimeId : String) : PythonRuntime ν :=
  ⟨runtimeId, .starting, 0, false, I.blank, fun _ => .unused⟩

end PythonRuntime

namespace ExecutionSession

variable {s t : ExecutionSession ν} {c : OpId}

def new (I : Interpreter ν) (sessionId : SessionId) (runtimeId : String) (started : Bool) :
    ExecutionSession ν where
  sessionId := sessionId
  status := .created
  runtime := if started then (PythonRuntime.new I runtimeId).start I .up else .new I runtimeId
  lock := []
  ops := fun _ => none

def callStep (I : Interpreter ν) (s : ExecutionSession ν) : CallAction → Option (ExecutionSession ν)
  | .call c k => if k.own = true ∧ (s.ops c).isNone = true then some (s.schedule c k) else none
  | .act a => s.step I a

lemma call_scheduled {k : Kind} (ht : s.callStep I (.call c k) = some t) :
    k.own = true ∧ s.ops c = none ∧ t = s.schedule c k := by
  simp only [callStep] at ht
  split at ht
  · next h =>
    cases ht
    exact ⟨h.1, by simpa using h.2, rfl⟩
  · cases ht

lemma grant_locks {k : Kind} {spawn : Spawn} (h : s.ops c = some ⟨k, .waiting⟩)
    (ht : s.step I (.grant c spawn) = some t) : k.locks = true := by
  simp only [step, h] at ht
  split at ht
  · cases k <;> first | rfl | cases ht
  · cases ht

lemma begin_waits {spawn : Spawn} {cause : Option ExecutionId}
    (h : s.ops c = some ⟨.reset cause, .scheduled⟩) (hl : s.lock ≠ [])
    (ht : s.step I (.begin c spawn) = some t) :
    t.ops c = some ⟨.reset cause, .waiting⟩ := by
  simp only [step, h, run, enterLock, if_neg hl] at ht
  cases ht
  simp [setPhase, h]

end ExecutionSession

end NotebookExecution.Execution
