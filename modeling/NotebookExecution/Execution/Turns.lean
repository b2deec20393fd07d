import NotebookExecution.Execution.Session

/-! Everything one step of a session can do: which call moves, from which phase to which, what
becomes of the lock queue and of the runtime. -/

namespace NotebookExecution.Execution

variable {ν : Type}

namespace Kind

def locks : Kind → Bool
  | .executeCell _ _ | .reset _ => true
  | _ => false

def calls : Kind → Bool
  | .executeCell _ _ | .installPackages _ _ | .verifyPackages _ => true
  | _ => false

def stops : Kind → Bool
  | .reset _ | .stop => true
  | _ => false

def starts : Kind → Bool
  | .reset _ | .start => true
  | _ => false

end Kind

namespace Phase

def inside : Phase → Bool
  | .sending _ | .polling | .probing _ | .ready | .receiving _ | .stopping _ | .starting => true
  | _ => false

def stray : Phase → Bool
  | .straySend _ | .strayRecv _ => true
  | _ => false

def aborted : Phase → Bool
  | .cancelled | .straySend _ | .strayRecv _ => true
  | _ => false

lemma ended_of_aborted {p : Phase} (h : p.aborted = true) : p.ended = true := by
  cases p <;> first | rfl | cases h

end Phase

inductive Opens (c : OpId) : SessionAction → Phase → Prop
  | begin (spawn : Spawn) : Opens c (.begin c spawn) .scheduled
  | grant (spawn : Spawn) : Opens c (.grant c spawn) .waiting

inductive LockMove (l : List OpId) (c : OpId) (k : Kind) (p q : Phase) : List OpId → Prop
  | leave (hq : q.ended = true) : LockMove l c k p q (l.erase c)
  | keep (hp : p.inside = true) (hq : q.inside = true) : LockMove l c k p q l
  | free (hk : k.locks = false) (hq : q.inside = true) : LockMove l c k p q l
  | grant (hq : q.inside = true) (hp : p = .waiting) (hl : l.head? = some c) : LockMove l c k p q l
  | join (hk : k.locks = true) (hp : p = .scheduled)
      (hq : q = .waiting ∧ l ≠ [] ∨ q.inside = true ∧ l = []) : LockMove l c k p q (l ++ [c])

inductive Shut (r : PythonRuntime ν) (c : OpId) : SessionAction → Phase → PythonRuntime ν → Prop
  | idle {a p b} (ha : Opens c a p) (hs : r.stop = (b, false)) : Shut r c a p b
  | direct {a p} (ha : Opens c a p) : Shut r c a p r
  | joined (spawn : Spawn) (o : Option ℕ) : Shut r c (.joined c spawn) (.stopping o) r.stopped

inductive SpawnPhase : Spawn → Phase → Prop
  | up : SpawnPhase .up .finished
  | exited : SpawnPhase .exited .starting
  | refused (reason : String) (e : Failure) : SpawnPhase (.refused reason) (.raised e)

inductive Turn (I : Interpreter ν) (r : PythonRuntime ν) (c : OpId) :
    SessionAction → Kind → Phase → Phase → PythonRuntime ν → Prop
  | raise {a k p} (e : Failure) (hp : p.ended = false) : Turn I r c a k p (.raised e) r
  | wait {k} (spawn : Spawn) : Turn I r c (.begin c spawn) k .scheduled .waiting r
  | call {a k p} (ha : Opens c a p) (hk : k.calls = true) (hr : r.isAlive = true) :
      Turn I r c a k p (.sending r.generation) r
  | idle {a k p} (ha : Opens c a p) (hk : k.stops = true ∨ k.starts = true) :
      Turn I r c a k p .finished r
  | shut {a k p b} (ha : Opens c a p) (hk : k.stops = true) (hs : r.stop = (b, true)) :
      Turn I r c a k p (.stopping (some b.generation)) b
  | shutIdle {a p b} (ha : Opens c a p) (hs : r.stop = (b, false)) : Turn I r c a .stop p .finished b
  | bounce {a k p b} (e : Failure) (hk : k.starts = true) (hs : Shut r c a p b) (hb : b.alive = true) :
      Turn I r c a k p (.raised e) b
  | respawn {a k p q b} (spawn : Spawn) (hk : k.starts = true) (hs : Shut r c a p b)
      (hb : b.alive = false) (hq : SpawnPhase spawn q) : Turn I r c a k p q (b.start I spawn)
  | stopped (spawn : Spawn) (o : Option ℕ) :
      Turn I r c (.joined c spawn) .stop (.stopping o) .finished r.stopped
  | startFails {k} (e : Failure) (hk : k.starts = true) :
      Turn I r c (.startEnds c) k .starting (.raised e) r.fail
  | started {k} (hk : k.starts = true) (ha : r.alive = true) :
      Turn I r c (.startEnds c) k .starting .finished r.confirm
  | sent {k g} (ho : (r.pipes g).opened = true) :
      Turn I r c (.send c) k (.sending g) .polling (r.setPipe g ((r.pipes g).send (k.command c)))
  | straySent {k g} (ho : (r.pipes g).opened = true) :
      Turn I r c (.send c) k (.straySend g) .cancelled (r.setPipe g ((r.pipes g).send (k.command c)))
  | strayUnsent {k g} : Turn I r c (.send c) k (.straySend g) .cancelled r
  | stopSent {k g} (ho : (r.pipes g).opened = true) :
      Turn I r c (.send c) k (.stopping (some g)) (.stopping none)
        (r.setPipe g ((r.pipes g).send (k.command c)))
  | stopUnsent {k g} : Turn I r c (.send c) k (.stopping (some g)) (.stopping none) r
  | probing {k} (ha : r.alive = true) : Turn I r c (.check c) k .polling (.probing r.generation) r
  | died {k} (e : Failure) (ha : r.alive = false) :
      Turn I r c (.check c) k .polling (.raised e) r.fail
  | nothing {k g} : Turn I r c (.probe c) k (.probing g) .polling r
  | found {k g} : Turn I r c (.probe c) k (.probing g) .ready r
  | fetched {k} : Turn I r c (.fetch c) k .ready (.receiving r.generation) r
  | took {k g m p} (ho : (r.pipes g).opened = true) (hm : (r.pipes g).recv = some (m, p)) :
      Turn I r c (.recv c) k (.receiving g) (.returned m) (r.setPipe g p)
  | strayTook {k g m p} (hm : (r.pipes g).recv = some (m, p)) :
      Turn I r c (.recv c) k (.strayRecv g) .cancelled (r.setPipe g p)
  | strayClosed {k g} : Turn I r c (.recv c) k (.strayRecv g) .cancelled r
  | overdue {k} (e : Failure) : Turn I r c (.expire c) k .polling (.raised e) r.fail

inductive Acts (I : Interpreter ν) (r : PythonRuntime ν) : SessionAction → PythonRuntime ν → Prop
  | work {machine r'} (h : r.work I machine = some r') : Acts I r (.work machine) r'
  | exit {r'} (h : r.exit = some r') : Acts I r .exit r'

namespace ExecutionSession

structure Advances (I : Interpreter ν) (s : ExecutionSession ν) (c : OpId) (a : SessionAction)
    (k : Kind) (p q : Phase) (t : ExecutionSession ν) : Prop where
  ops : t.ops = Function.update s.ops c (some ⟨k, q⟩)
  lock : LockMove s.lock c k p q t.lock
  turn : Turn I s.runtime c a k p q t.runtime

variable {I : Interpreter ν} {s t : ExecutionSession ν} {c : OpId} {a : SessionAction} {k : Kind}
  {p q : Phase} {r : PythonRuntime ν} {spawn : Spawn}

section Fields

@[simp] lemma leave_runtime : (s.leave c q).runtime = s.runtime := rfl
@[simp] lemma leave_lock : (s.leave c q).lock = s.lock.erase c := rfl
@[simp] lemma withRuntime_runtime : (s.withRuntime r).runtime = r := rfl

lemma setPhase_ops (h : s.ops c = some ⟨k, p⟩) :
    (s.setPhase c q).ops = Function.update s.ops c (some ⟨k, q⟩) := by
  simp [setPhase, h]

lemma leave_ops (h : s.ops c = some ⟨k, p⟩) :
    (s.leave c q).ops = Function.update s.ops c (some ⟨k, q⟩) := setPhase_ops h

lemma raise_runtime {e : Failure} : (s.raise c k e).runtime = s.runtime := by
  cases k <;> simp only [raise, leave_runtime]
  split <;> rfl

lemma raise_lock {e : Failure} : (s.raise c k e).lock = s.lock.erase c := by
  cases k <;> simp only [raise, leave_lock]
  split <;> rfl

lemma raise_ops {e : Failure} (h : s.ops c = some ⟨k, p⟩) :
    ∃ e', (s.raise c k e).ops = Function.update s.ops c (some ⟨k, .raised e'⟩) := by
  cases k with
  | executeCell code timeout =>
    refine ⟨.sessionExecution s.sessionId e.text, ?_⟩
    by_cases hr : s.runtime.isAlive = true
    · simp only [raise, hr, if_true]
      exact leave_ops h
    · simp only [raise, hr]
      exact leave_ops h
  | _ => exact ⟨e, leave_ops h⟩

end Fields

def Runs (I : Interpreter ν) (r : PythonRuntime ν) (c : OpId) (a : SessionAction) (k : Kind)
    (p : Phase) (s t : ExecutionSession ν) : Prop :=
  ∃ q, t.ops = Function.update s.ops c (some ⟨k, q⟩) ∧
    (q.ended = true ∧ t.lock = s.lock.erase c ∨ q.inside = true ∧ t.lock = s.lock) ∧
    Turn I r c a k p q t.runtime

lemma leave_runs (h : s.ops c = some ⟨k, p⟩) (hq : q.ended = true)
    (ht : Turn I r c a k p q s.runtime) : Runs I r c a k p s (s.leave c q) :=
  ⟨q, leave_ops h, Or.inl ⟨hq, rfl⟩, ht⟩

lemma setPhase_runs (h : s.ops c = some ⟨k, p⟩) (hq : q.inside = true)
    (ht : Turn I r c a k p q s.runtime) : Runs I r c a k p s (s.setPhase c q) :=
  ⟨q, setPhase_ops h, Or.inr ⟨hq, rfl⟩, ht⟩

lemma raise_runs {e : Failure} (h : s.ops c = some ⟨k, p⟩)
    (ht : ∀ e', Turn I r c a k p (.raised e') s.runtime) : Runs I r c a k p s (s.raise c k e) := by
  obtain ⟨e', he⟩ := raise_ops (e := e) h
  refine ⟨.raised e', he, Or.inl ⟨rfl, raise_lock⟩, ?_⟩
  rw [raise_runtime]
  exact ht e'

lemma opens_not_ended (ha : Opens c a p) : p.ended = false := by
  cases ha <;> rfl

lemma callRuntime_runs (h : s.ops c = some ⟨k, p⟩) (ha : Opens c a p) (hk : k.calls = true) :
    Runs I s.runtime c a k p s (s.callRuntime c k) := by
  rw [callRuntime]
  by_cases hr : s.runtime.isAlive = true
  · rw [if_pos hr]
    exact setPhase_runs h rfl (.call ha hk hr)
  · rw [if_neg hr]
    exact raise_runs h fun e' => .raise e' (opens_not_ended ha)

lemma restart_runs (h : s.ops c = some ⟨k, p⟩) (hk : k.starts = true)
    (hs : Shut r c a p s.runtime) : Runs I r c a k p s (s.restart I c spawn) := by
  simp only [restart]
  by_cases hb : s.runtime.alive = true
  · rw [if_pos hb]
    exact leave_runs h rfl (.bounce _ hk hs hb)
  · have hb' : s.runtime.alive = false := by simpa using hb
    rw [if_neg hb]
    cases spawn with
    | up => exact leave_runs (s := s.withRuntime _) h rfl (.respawn .up hk hs hb' .up)
    | exited => exact setPhase_runs (s := s.withRuntime _) h rfl (.respawn .exited hk hs hb' .exited)
    | refused reason =>
      exact leave_runs (s := s.withRuntime _) h rfl
        (.respawn (.refused reason) hk hs hb' (.refused reason _))

lemma resetBody_runs {cause : Option ExecutionId} (h : s.ops c = some ⟨.reset cause, p⟩)
    (ha : Opens c a p) : Runs I s.runtime c a (.reset cause) p s (s.resetBody I c spawn) := by
  rw [resetBody]
  by_cases hs : s.status ≠ .active
  · rw [if_pos hs]
    exact leave_runs h rfl (.raise _ (opens_not_ended ha))
  · rw [if_neg hs]
    cases hr : s.runtime.stop with
    | mk b suspended =>
      cases suspended with
      | true => exact setPhase_runs (s := s.withRuntime b) h rfl (.shut ha rfl hr)
      | false => exact restart_runs (s := s.withRuntime b) h rfl (.idle ha hr)

lemma stop_runs (h : s.ops c = some ⟨.stop, p⟩) (ha : Opens c a p) :
    Runs I s.runtime c a .stop p s (s.stop c) := by
  rw [stop]
  by_cases hs : s.status = .stopping ∨ s.status = .stopped
  · rw [if_pos hs]
    exact leave_runs h rfl (.idle ha (Or.inl rfl))
  · rw [if_neg hs]
    cases hr : s.runtime.stop with
    | mk b suspended =>
      cases suspended with
      | true =>
        exact setPhase_runs (s := (s.withStatus .stopping).withRuntime b) h rfl (.shut ha rfl hr)
      | false => exact leave_runs (s := (s.withStatus .stopped).withRuntime b) h rfl (.shutIdle ha hr)

lemma start_runs (h : s.ops c = some ⟨.start, p⟩) (ha : Opens c a p) :
    Runs I s.runtime c a .start p s (s.start I c spawn) := by
  simp only [start]
  by_cases hs : s.status ≠ .created ∧ s.status ≠ .stopped
  · rw [if_pos hs]
    exact leave_runs h rfl (.idle ha (Or.inr rfl))
  rw [if_neg hs]
  by_cases hr : s.runtime.isAlive = true
  · rw [if_pos hr]
    exact leave_runs (s := s.withStatus .active) h rfl (.idle ha (Or.inr rfl))
  rw [if_neg hr]
  by_cases hb : s.runtime.alive = true
  · rw [if_pos hb]
    exact leave_runs (s := s.withStatus .failed) h rfl (.raise _ (opens_not_ended ha))
  have hb' : s.runtime.alive = false := by simpa using hb
  rw [if_neg hb]
  cases spawn with
  | up =>
    exact leave_runs (s := (s.withRuntime _).withStatus .active) h rfl
      (.respawn .up rfl (.direct ha) hb' .up)
  | exited =>
    exact setPhase_runs (s := (s.withRuntime _).withStatus .starting) h rfl
      (.respawn .exited rfl (.direct ha) hb' .exited)
  | refused reason =>
    exact leave_runs (s := (s.withRuntime _).withStatus .failed) h rfl
      (.respawn (.refused reason) rfl (.direct ha) hb' (.refused reason _))

lemma Runs.advance (h : Runs I s.runtime c a k p s t) (hp : k.locks = false ∨ p.inside = true) :
    ∃ q, Advances I s c a k p q t := by
  obtain ⟨q, ho, hl, ht⟩ := h
  refine ⟨q, ho, ?_, ht⟩
  rcases hl with ⟨hq, hl⟩ | ⟨hq, hl⟩
  · rw [hl]
    exact .leave hq
  · rw [hl]
    rcases hp with hp | hp
    · exact .free hp hq
    · exact .keep hp hq

lemma Runs.granted (h : Runs I s.runtime c a k .waiting s t) (hl : s.lock.head? = some c) :
    ∃ q, Advances I s c a k .waiting q t := by
  obtain ⟨q, ho, hq, ht⟩ := h
  refine ⟨q, ho, ?_, ht⟩
  rcases hq with ⟨hq, hs⟩ | ⟨hq, hs⟩
  · rw [hs]
    exact .leave hq
  · rw [hs]
    exact .grant hq rfl hl

lemma leave_advances (h : s.ops c = some ⟨k, p⟩) (hp : p.ended = false) {e : Failure}
    (status : SessionStatus) :
    ∃ q, Advances I s c a k p q ((s.withStatus status).leave c (.raised e)) :=
  ⟨.raised e, leave_ops (s := s.withStatus status) h, .leave rfl, .raise e hp⟩

lemma enterLock_advances {body : ExecutionSession ν → ExecutionSession ν}
    (h : s.ops c = some ⟨k, .scheduled⟩) (hk : k.locks = true)
    (hb : Runs I s.runtime c (.begin c spawn) k .scheduled { s with lock := [c] }
      (body { s with lock := [c] })) :
    ∃ q, Advances I s c (.begin c spawn) k .scheduled q (s.enterLock c body) := by
  rw [enterLock]
  by_cases hl : s.lock = []
  · rw [if_pos hl]
    obtain ⟨q, ho, hq, ht⟩ := hb
    refine ⟨q, ho, ?_, ht⟩
    rcases hq with ⟨hq, hs⟩ | ⟨hq, hs⟩
    · have he : (body { s with lock := [c] }).lock = s.lock.erase c := by
        rw [hs, hl]
        simp
      rw [he]
      exact .leave hq
    · have he : (body { s with lock := [c] }).lock = s.lock ++ [c] := by
        rw [hs, hl]
        rfl
      rw [he]
      exact .join hk rfl (Or.inr ⟨hq, hl⟩)
  · rw [if_neg hl]
    exact ⟨.waiting, setPhase_ops h, .join hk rfl (Or.inl ⟨rfl, hl⟩), .wait spawn⟩

lemma executeCell_advances {code : String} {timeout : Seconds}
    (h : s.ops c = some ⟨.executeCell code timeout, .scheduled⟩) :
    ∃ q, Advances I s c (.begin c spawn) (.executeCell code timeout) .scheduled q
      (s.executeCell c (.executeCell code timeout)) := by
  rw [executeCell]
  by_cases hs : s.status ≠ .active
  · rw [if_pos hs]
    exact leave_advances h rfl s.status
  rw [if_neg hs]
  by_cases hr : (!s.runtime.isAlive) = true
  · rw [if_pos hr]
    exact leave_advances h rfl .failed
  rw [if_neg hr]
  exact enterLock_advances h rfl
    (callRuntime_runs (s := { s with lock := [c] }) h (.begin spawn) rfl)

lemma run_advances (h : s.ops c = some ⟨k, .scheduled⟩) :
    ∃ q, Advances I s c (.begin c spawn) k .scheduled q (s.run I c spawn k) := by
  cases k with
  | executeCell code timeout => exact executeCell_advances h
  | installPackages reqs timeout => exact (callRuntime_runs h (.begin spawn) rfl).advance (Or.inl rfl)
  | verifyPackages pkgs => exact (callRuntime_runs h (.begin spawn) rfl).advance (Or.inl rfl)
  | reset cause =>
    exact enterLock_advances h rfl
      (resetBody_runs (s := { s with lock := [c] }) h (.begin spawn))
  | stop => exact (stop_runs h (.begin spawn)).advance (Or.inl rfl)
  | start => exact (start_runs h (.begin spawn)).advance (Or.inl rfl)

lemma resumeLocked_advances (h : s.ops c = some ⟨k, .waiting⟩) (hl : s.lock.head? = some c)
    (ht : s.resumeLocked I c spawn k = some t) :
    ∃ q, Advances I s c (.grant c spawn) k .waiting q t := by
  cases k with
  | executeCell code timeout =>
    obtain rfl : _ = t := Option.some_inj.mp ht
    exact (callRuntime_runs h (.grant spawn) rfl).granted hl
  | reset cause =>
    obtain rfl : _ = t := Option.some_inj.mp ht
    exact (resetBody_runs h (.grant spawn)).granted hl
  | _ => cases ht

/-! ## Threads and wake-ups -/

lemma stays (hp : p.inside = true) (hq : q.inside = true) (h : s.ops c = some ⟨k, p⟩)
    (ht : Turn I s.runtime c a k p q r) : Advances I s c a k p q ((s.withRuntime r).setPhase c q) :=
  ⟨setPhase_ops (s := s.withRuntime r) h, .keep hp hq, ht⟩

lemma leaves (hq : q.ended = true) (h : s.ops c = some ⟨k, p⟩)
    (ht : Turn I s.runtime c a k p q r) : Advances I s c a k p q ((s.withRuntime r).leave c q) :=
  ⟨leave_ops (s := s.withRuntime r) h, .leave hq, ht⟩

lemma raises {e : Failure} (h : s.ops c = some ⟨k, p⟩)
    (ht : ∀ e', Turn I s.runtime c a k p (.raised e') r) :
    ∃ q, Advances I s c a k p q ((s.withRuntime r).raise c k e) := by
  obtain ⟨e', he⟩ := raise_ops (s := s.withRuntime r) (e := e) h
  refine ⟨.raised e', he, ?_, ?_⟩
  · rw [raise_lock]
    exact .leave rfl
  · rw [raise_runtime]
    exact ht e'

def Moves (I : Interpreter ν) (s : ExecutionSession ν) (c : OpId) (a : SessionAction)
    (t : ExecutionSession ν) : Prop :=
  ∃ k p q, s.ops c = some ⟨k, p⟩ ∧ Advances I s c a k p q t

lemma send_moves (ht : s.send c = some t) : Moves I s c (.send c) t := by
  rw [send] at ht
  split at ht
  · next k g h =>
    split at ht
    · next ho =>
      cases ht
      exact ⟨k, _, _, h, stays rfl rfl h (.sent ho)⟩
    · cases ht
      obtain ⟨q, hq⟩ := raises (e := .handleClosed) h fun e' => .raise e' rfl
      exact ⟨k, _, q, h, hq⟩
  · next k g h =>
    split at ht
    · next ho =>
      cases ht
      exact ⟨k, _, _, h, leaves rfl h (.straySent ho)⟩
    · cases ht
      exact ⟨k, _, _, h, leaves rfl h .strayUnsent⟩
  · next k g h =>
    split at ht
    · next ho =>
      cases ht
      exact ⟨k, _, _, h, stays rfl rfl h (.stopSent ho)⟩
    · cases ht
      exact ⟨k, _, _, h, stays rfl rfl h .stopUnsent⟩
  · cases ht

lemma check_moves (ht : s.check c = some t) : Moves I s c (.check c) t := by
  rw [check] at ht
  split at ht
  · next k h =>
    split at ht
    · next ha =>
      cases ht
      exact ⟨k, _, _, h, stays rfl rfl h (.probing ha)⟩
    · next ha =>
      cases ht
      obtain ⟨q, hq⟩ := raises (e := .died s.runtime.runtimeId k.activity) h
        fun e' => .died e' (by simpa using ha)
      exact ⟨k, _, q, h, hq⟩
  · cases ht

lemma probe_moves (ht : s.probe c = some t) : Moves I s c (.probe c) t := by
  rw [probe] at ht
  split at ht
  · next k g h =>
    split at ht
    · cases ht
      obtain ⟨q, hq⟩ := raises (e := .handleClosed) h fun e' => .raise e' rfl
      exact ⟨k, _, q, h, hq⟩
    · split at ht
      · cases ht
        exact ⟨k, _, _, h, stays rfl rfl h .nothing⟩
      · cases ht
        exact ⟨k, _, _, h, stays rfl rfl h .found⟩
  · cases ht

lemma fetch_moves (ht : s.fetch c = some t) : Moves I s c (.fetch c) t := by
  rw [fetch] at ht
  split at ht
  · next k h =>
    cases ht
    exact ⟨k, _, _, h, stays rfl rfl h .fetched⟩
  · cases ht

lemma recv_moves (ht : s.recv c = some t) : Moves I s c (.recv c) t := by
  rw [recv] at ht
  split at ht
  · next k g h =>
    split at ht
    · cases ht
      obtain ⟨q, hq⟩ := raises (e := .handleClosed) h fun e' => .raise e' rfl
      exact ⟨k, _, q, h, hq⟩
    · next ho =>
      split at ht
      · cases ht
      · next m pipe hm =>
        cases ht
        exact ⟨k, _, _, h, leaves rfl h (.took (by simpa using ho) hm)⟩
  · next k g h =>
    split at ht
    · cases ht
      exact ⟨k, _, _, h, leaves rfl h .strayClosed⟩
    · split at ht
      · cases ht
      · next m pipe hm =>
        cases ht
        exact ⟨k, _, _, h, leaves rfl h (.strayTook hm)⟩
  · cases ht

lemma expire_moves (ht : s.expire c = some t) : Moves I s c (.expire c) t := by
  rw [expire] at ht
  split at ht
  · next pkgs h =>
    cases ht
    obtain ⟨q, hq⟩ := raises (e := .timedOut (Kind.verifyPackages pkgs).overdue) h
      fun e' => .raise e' rfl
    exact ⟨_, _, q, h, hq⟩
  · next k _ h =>
    cases ht
    obtain ⟨q, hq⟩ := raises (e := .timedOut k.overdue) h fun e' => .overdue e'
    exact ⟨k, _, q, h, hq⟩
  · cases ht

lemma joined_moves (ht : s.joined I c spawn = some t) : Moves I s c (.joined c spawn) t := by
  rw [joined] at ht
  split at ht
  · next cause o h =>
    cases ht
    have hr : Runs I s.runtime c (.joined c spawn) (.reset cause) (.stopping o) s
        ((s.withRuntime s.runtime.stopped).restart I c spawn) :=
      restart_runs (s := s.withRuntime s.runtime.stopped) h rfl (.joined spawn o)
    obtain ⟨q, hq⟩ := hr.advance (Or.inr rfl)
    exact ⟨_, _, q, h, hq⟩
  · next o h =>
    cases ht
    have hr : Runs I s.runtime c (.joined c spawn) .stop (.stopping o) s _ :=
      leave_runs (s := (s.withRuntime s.runtime.stopped).withStatus .stopped) h rfl (.stopped spawn o)
    obtain ⟨q, hq⟩ := hr.advance (Or.inr rfl)
    exact ⟨_, _, q, h, hq⟩
  · cases ht

lemma startEnds_moves (ht : s.startEnds c = some t) : Moves I s c (.startEnds c) t := by
  rw [startEnds] at ht
  split at ht
  · next cause h =>
    split at ht
    · next ha =>
      cases ht
      exact ⟨_, _, _, h, leaves rfl h (.started rfl ha)⟩
    · cases ht
      exact ⟨_, _, _, h, leaves rfl h (.startFails _ rfl)⟩
  · next h =>
    split at ht
    · next ha =>
      cases ht
      have hr : Runs I s.runtime c (.startEnds c) .start .starting s
          (((s.withRuntime s.runtime.confirm).withStatus .active).leave c .finished) :=
        leave_runs (s := (s.withRuntime s.runtime.confirm).withStatus .active) h rfl (.started rfl ha)
      obtain ⟨q, hq⟩ := hr.advance (Or.inr rfl)
      exact ⟨_, _, q, h, hq⟩
    · cases ht
      have hr : Runs I s.runtime c (.startEnds c) .start .starting s
          ((s.withRuntime s.runtime.fail).startFailed c (exitedImmediately s.runtime.runtimeId)) :=
        leave_runs (s := (s.withRuntime s.runtime.fail).withStatus .failed) h rfl (.startFails _ rfl)
      obtain ⟨q, hq⟩ := hr.advance (Or.inr rfl)
      exact ⟨_, _, q, h, hq⟩
  · cases ht

theorem step_cases (ht : s.step I a = some t) :
    (∃ r, Acts I s.runtime a r ∧ t = s.withRuntime r) ∨ ∃ c, Moves I s c a t := by
  cases a with
  | begin c spawn =>
    simp only [step] at ht
    split at ht
    · next k h =>
      cases ht
      obtain ⟨q, hq⟩ : ∃ q, Advances I s c (.begin c spawn) k .scheduled q (s.run I c spawn k) :=
        run_advances h
      exact Or.inr ⟨c, k, _, q, h, hq⟩
    · cases ht
  | grant c spawn =>
    simp only [step] at ht
    split at ht
    · next k h =>
      split at ht
      · next hl =>
        obtain ⟨q, hq⟩ := resumeLocked_advances h hl ht
        exact Or.inr ⟨c, k, _, q, h, hq⟩
      · cases ht
    · cases ht
  | send c => exact Or.inr ⟨c, send_moves ht⟩
  | work machine =>
    obtain ⟨r, hr, rfl⟩ := Option.map_eq_some_iff.mp ht
    exact Or.inl ⟨r, .work hr, rfl⟩
  | check c => exact Or.inr ⟨c, check_moves ht⟩
  | probe c => exact Or.inr ⟨c, probe_moves ht⟩
  | fetch c => exact Or.inr ⟨c, fetch_moves ht⟩
  | recv c => exact Or.inr ⟨c, recv_moves ht⟩
  | expire c => exact Or.inr ⟨c, expire_moves ht⟩
  | joined c spawn => exact Or.inr ⟨c, joined_moves ht⟩
  | startEnds c => exact Or.inr ⟨c, startEnds_moves ht⟩
  | exit =>
    obtain ⟨r, hr, rfl⟩ := Option.map_eq_some_iff.mp ht
    exact Or.inl ⟨r, .exit hr, rfl⟩

end ExecutionSession

end NotebookExecution.Execution
