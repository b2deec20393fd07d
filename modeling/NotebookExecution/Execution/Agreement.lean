import NotebookExecution.Execution.Lifetime
import NotebookExecution.Execution.Standing
import NotebookExecution.Library.Runs

/-! When a session and its runtime agree. A reset stops the worker and starts another one without
looking at the session in between, and leaves the session as it is when the start fails. A stop does
not look whether the process has gone. -/

namespace NotebookExecution.Execution

open Library.Runs

variable {ν : Type} {I : Interpreter ν}

namespace ExecutionSession

variable {s t : ExecutionSession ν} {c : OpId} {a : SessionAction} {k : Kind} {p q : Phase}
  {spawn : Spawn}

def atRest (s : ExecutionSession ν) : Prop :=
  ∀ c k p, s.ops c = some ⟨k, p⟩ → p = .scheduled ∨ p.ended = true

def Agrees (s : ExecutionSession ν) : Prop :=
  s.atRest → (s.status = .active → s.runtime.status = .running) ∧
    (s.status = .stopped → s.runtime.status ≠ .running ∧ s.runtime.alive = false)

/-- Whether the worker that is spawned comes up, once that is known. -/
def outcome : Spawn → Option Bool
  | .up => some true
  | .exited => none
  | .refused _ => some false

/-- A reset at its turn for the lock starts a worker at once when there is none to stop. -/
def opens (spawn : Spawn) (s : ExecutionSession ν) : Option Bool :=
  if s.status = .active ∧ s.runtime.alive = false then outcome spawn else none

def restarted (s : ExecutionSession ν) : SessionAction → Option Bool
  | .begin c spawn =>
    match s.ops c with
    | some ⟨.reset _, .scheduled⟩ => if s.lock = [] then s.opens spawn else none
    | _ => none
  | .grant c spawn =>
    match s.ops c with
    | some ⟨.reset _, .waiting⟩ => s.opens spawn
    | _ => none
  | .joined c spawn =>
    match s.ops c with
    | some ⟨.reset _, .stopping _⟩ => if s.runtime.alive then none else outcome spawn
    | _ => none
  | .startEnds c =>
    match s.ops c with
    | some ⟨.reset _, .starting⟩ => some s.runtime.alive
    | _ => none
  | _ => none

/-- A worker that a reset starts does not come up for a stopped session, nor fail an active one. -/
def restartsWell (s : ExecutionSession ν) : CallAction → Bool
  | .call _ _ => true
  | .act a =>
    match s.restarted a with
    | some true => s.status ≠ .stopped
    | some false => s.status ≠ .active
    | none => true

def stopsWell (s : ExecutionSession ν) : CallAction → Bool
  | .act (.joined _ _) => !s.runtime.alive
  | _ => true

def Switching (P : Kind → Bool) (s : ExecutionSession ν) : Prop :=
  ∃ c k p, s.ops c = some ⟨k, p⟩ ∧ P k = true ∧ p.switching = true

def Fits (s : ExecutionSession ν) : Prop :=
  ∀ c k p, s.ops c = some ⟨k, p⟩ →
    k.own = true ∧ (p.sends ≠ none ∨ p.onWorker = true → k.isCell = true)

structure Coupled (s : ExecutionSession ν) : Prop where
  fits : s.Fits
  stopped : s.status = .stopped → s.runtime.status ≠ .running
  active : s.status = .active → s.runtime.status = .running ∨ s.Switching Kind.isReset
  alive : s.runtime.alive = true →
    s.runtime.status = .running ∨ s.runtime.status = .failed ∧ s.status ≠ .stopped ∨ s.Switching fun _ => true

lemma Switching.carry {P : Kind → Bool} (h : s.Switching P) (hc : s.ops c = some ⟨k, p⟩)
    (ht : t.ops = Function.update s.ops c (some ⟨k, q⟩)) (hq : p.switching = true → q.switching = true) :
    t.Switching P := by
  obtain ⟨d, j, p', hd, hj, hp⟩ := h
  by_cases hdc : d = c
  · subst hdc
    cases hc.symm.trans hd
    exact ⟨d, k, q, by rw [ht, Function.update_self], hj, hq hp⟩
  · exact ⟨d, j, p', by rw [ht, Function.update_of_ne hdc, hd], hj, hp⟩

lemma Switching.self {P : Kind → Bool} (ht : t.ops = Function.update s.ops c (some ⟨k, q⟩))
    (hk : P k = true) (hq : q.switching = true) : t.Switching P :=
  ⟨c, k, q, by rw [ht, Function.update_self], hk, hq⟩

lemma Switching.not_atRest {P : Kind → Bool} (h : s.Switching P) : ¬ s.atRest := by
  obtain ⟨c, k, p, hc, -, hp⟩ := h
  intro hr
  rcases hr c k p hc with rfl | he
  · cases hp
  · cases p <;> simp [Phase.switching, Phase.ended] at hp he

lemma Coupled.agrees (h : s.Coupled) : s.Agrees := by
  intro hr
  constructor
  · intro hs
    rcases h.active hs with hrun | hsw
    · exact hrun
    · exact absurd hr hsw.not_atRest
  · intro hs
    refine ⟨h.stopped hs, ?_⟩
    by_contra hb
    rcases h.alive (by simpa using hb) with hrun | ⟨-, hst⟩ | hsw
    · exact h.stopped hs hrun
    · exact hst hs
    · exact hsw.not_atRest hr

/-! ## Steps -/

lemma standing_eq {x : SessionStatus} {y : RuntimeStatus} {b : Bool} :
    s.standing = ⟨x, y, b⟩ ↔ s.status = x ∧ s.runtime.status = y ∧ s.runtime.alive = b := by
  simp [standing]

lemma cell_of_calls (hk : k.calls = true) (ho : k.own = true) : k.isCell = true := by
  cases k <;> simp [Kind.calls, Kind.own, Kind.isCell] at hk ho ⊢

lemma fits_step (h : s.Fits) (ht : s.step I a = some t) : t.Fits := by
  rcases step_cases ht with ⟨r, -, rfl⟩ | ⟨c, k, p, q, hc, ha⟩
  · exact h
  intro d j p' hd
  by_cases hdc : d = c
  · subst hdc
    cases ha.self.symm.trans hd
    obtain ⟨hown, hcell⟩ := h d k p hc
    refine ⟨hown, ?_⟩
    rintro (hq | hq)
    · obtain ⟨g, hg⟩ := Option.ne_none_iff_exists'.mp hq
      exact cell_of_calls (PythonRuntime.turn_sends ha.turn hg).1 hown
    · rcases PythonRuntime.turn_onWorker ha.turn hq with hw | ⟨g, rfl, -⟩
      · exact hcell (Or.inr hw)
      · exact hcell (Or.inl (by simp [Phase.sends]))
  · exact h d j p' ((ha.other hdc).symm.trans hd)

lemma reset_cases (hk : k.isReset = true) : ∃ cause, k = .reset cause := by
  cases k with
  | reset cause => exact ⟨cause, rfl⟩
  | _ => cases hk

lemma restarted_opens (h : s.ops c = some ⟨k, p⟩) (ht : s.step I a = some t) (ha : Opens c a p)
    (hs : a.spawn = some spawn) (hk : k.isReset = true) (hq : SpawnPhase spawn q)
    (ho : t.ops = Function.update s.ops c (some ⟨k, q⟩)) (hst : s.status = .active)
    (hb : s.runtime.alive = false) : s.restarted a = outcome spawn := by
  obtain ⟨cause, rfl⟩ := reset_cases hk
  cases ha with
  | begin spawn' =>
    cases hs
    have hl : s.lock = [] := by
      by_contra hl
      have hw := begin_waits h hl ht
      rw [ho, Function.update_self] at hw
      cases hw
      cases hq
    simp [restarted, h, hl, opens, hst, hb]
  | grant spawn' =>
    cases hs
    simp [restarted, h, opens, hst, hb]

lemma restarted_joined {o : Option ℕ} (h : s.ops c = some ⟨k, .stopping o⟩) (hk : k.isReset = true)
    (hb : s.runtime.alive = false) : s.restarted (.joined c spawn) = outcome spawn := by
  obtain ⟨cause, rfl⟩ := reset_cases hk
  simp [restarted, h, hb]

lemma restarted_ends (h : s.ops c = some ⟨k, .starting⟩) (hk : k.isReset = true) :
    s.restarted (.startEnds c) = some s.runtime.alive := by
  obtain ⟨cause, rfl⟩ := reset_cases hk
  simp [restarted, h]

lemma Coupled.running (hf : t.Fits) (hst : t.status ≠ .stopped) (hrt : t.runtime.status = .running) :
    t.Coupled :=
  ⟨hf, fun hs => absurd hs hst, fun _ => Or.inl hrt, fun _ => Or.inl hrt⟩

lemma Coupled.dead (hf : t.Fits) (hst : t.status ≠ .active) (hrt : t.runtime.status ≠ .running)
    (hal : t.runtime.alive = false) : t.Coupled :=
  ⟨hf, fun _ => hrt, fun hs => absurd hs hst, fun hb => by rw [hal] at hb; cases hb⟩

lemma Coupled.idle (h : s.Coupled) (hf : t.Fits) (hc : s.ops c = some ⟨k, p⟩)
    (ho : t.ops = Function.update s.ops c (some ⟨k, q⟩)) (hp : p.switching = false)
    (hst : t.status ≠ .active) (hrt : t.runtime.status = s.runtime.status)
    (hal : t.runtime.alive = s.runtime.alive)
    (hs : t.status = .stopped → s.runtime.status = .terminating ∨ s.runtime.status = .terminated) :
    t.Coupled := by
  refine ⟨hf, fun ht => ?_, fun ha => absurd ha hst, fun hb => ?_⟩
  · rcases hs ht with hx | hx <;> simp [hrt, hx]
  · rw [hrt]
    refine (h.alive (hal ▸ hb)).imp_right (Or.imp (fun hx => ⟨hx.1, fun ht => ?_⟩) fun hsw => ?_)
    · rcases hs ht with hy | hy <;> simp [hx.1] at hy
    · exact hsw.carry hc ho (by simp [hp])

lemma Coupled.spawned (ho : t.ops = Function.update s.ops c (some ⟨k, q⟩)) (hk : k.isReset = true)
    (hq : SpawnPhase spawn q) (hf : t.Fits)
    (hst : t.status = s.status) (hrt : t.runtime.status = spawn.status)
    (hal : t.runtime.alive = decide (spawn = .up)) (hw : s.restarted a = outcome spawn)
    (hok : s.restartsWell (.act a) = true) : t.Coupled := by
  rw [restartsWell, hw] at hok
  cases hq with
  | up =>
    have hns : s.status ≠ .stopped := by simpa [outcome] using hok
    exact ⟨hf, fun hs => absurd (hst.symm.trans hs) hns,
      fun _ => Or.inl hrt, fun _ => Or.inl hrt⟩
  | exited =>
    refine ⟨hf, fun _ => by simp [hrt, Spawn.status],
      fun _ => Or.inr (Switching.self ho hk rfl), fun hb => ?_⟩
    rw [hal] at hb
    cases hb
  | refused reason e =>
    have hna : s.status ≠ .active := by simpa [outcome] using hok
    refine ⟨hf, fun _ => by simp [hrt, Spawn.status],
      fun hs => absurd (hst.symm.trans hs) hna, fun hb => ?_⟩
    rw [hal] at hb
    cases hb

theorem coupled_step (h : s.Coupled) (ht : s.step I a = some t) (hok : s.restartsWell (.act a) = true)
    (hgo : s.stopsWell (.act a) = true) : t.Coupled := by
  have hfit := fits_step h.fits ht
  rcases step_shifts ht with ⟨ho, hst, hrt, hal⟩ | ⟨c, k, p, q, hc, ho, hshift⟩
  · have hsw : ∀ P, s.Switching P → t.Switching P := fun P ⟨d, hd⟩ => ⟨d, by rw [ho]; exact hd⟩
    refine ⟨hfit, by rw [hst, hrt]; exact h.stopped, fun hs => ?_, fun hb => ?_⟩
    · rw [hrt]
      exact (h.active (hst ▸ hs)).imp_right (hsw _)
    · rw [hrt, hst]
      exact (h.alive (hal hb)).imp_right (Or.imp_right (hsw _))
  generalize hσ : s.standing = σ at hshift
  generalize hτ : t.standing = τ at hshift
  cases hshift with
  | stay hp hq =>
    obtain ⟨hst, hrt, hal⟩ : t.status = s.status ∧ t.runtime.status = s.runtime.status ∧
        t.runtime.alive = s.runtime.alive := by
      rw [← standing_eq, hτ, ← hσ]
      rfl
    refine ⟨hfit, by rw [hst, hrt]; exact h.stopped, fun hs => ?_, fun hb => ?_⟩
    · rw [hrt]
      exact (h.active (hst ▸ hs)).imp_right fun hsw => hsw.carry hc ho hp
    · rw [hrt, hst]
      exact (h.alive (hal ▸ hb)).imp_right (Or.imp_right fun hsw => hsw.carry hc ho hp)
  | lost e hk hp he hq hx =>
    obtain ⟨-, hx', hb'⟩ := standing_eq.mp hσ
    obtain ⟨hst, hrt, hal⟩ := standing_eq.mp hτ
    exact h.idle hfit hc ho hp (by simp [hst]) (hrt.trans hx'.symm) (hal.trans hb'.symm) (by simp [hst])
  | fails e =>
    have hcell : k.isCell = true := (h.fits c k _ hc).2 (Or.inr rfl)
    obtain ⟨hst, hrt, -⟩ := standing_eq.mp hτ
    rw [hcell] at hst
    exact ⟨hfit, fun _ => by simp [hrt], by simp [hst], fun _ => Or.inr (Or.inl ⟨hrt, by simp [hst]⟩)⟩
  | resetStops ha hk =>
    obtain ⟨hst, hrt, hal⟩ := standing_eq.mp hτ
    exact ⟨hfit, by simp [hst], fun _ => Or.inr (Switching.self ho hk rfl),
      fun _ => Or.inr (Or.inr (Switching.self ho rfl rfl))⟩
  | resetOpens spawn ha hs hk hq =>
    obtain ⟨hst', -, hb⟩ := standing_eq.mp hσ
    obtain ⟨hst, hrt, hal⟩ := standing_eq.mp hτ
    exact Coupled.spawned ho hk hq hfit (hst.trans hst'.symm) hrt hal
      (restarted_opens hc ht ha hs hk hq ho hst' hb) hok
  | resetJoined spawn hk hq =>
    obtain ⟨hst', -, hb⟩ := standing_eq.mp hσ
    obtain ⟨hst, hrt, hal⟩ := standing_eq.mp hτ
    exact Coupled.spawned ho hk hq hfit (hst.trans hst'.symm) hrt hal (restarted_joined hc hk hb) hok
  | resetOutlived spawn e hk =>
    obtain ⟨-, -, hb⟩ := standing_eq.mp hσ
    simp [stopsWell, hb] at hgo
  | @resetEnds _ _ st x b hk hq =>
    obtain ⟨hst', -, hb'⟩ := standing_eq.mp hσ
    obtain ⟨hst, hrt, hal⟩ := standing_eq.mp hτ
    rw [restartsWell, restarted_ends hc hk, hb'] at hok
    cases b with
    | true =>
      exact Coupled.running hfit (by simpa [hst, hst'] using hok) hrt
    | false => exact Coupled.dead hfit (by simpa [hst, hst'] using hok) (by simp [hrt]) hal
  | stops ha hs =>
    obtain ⟨hst, hrt, hal⟩ := standing_eq.mp hτ
    exact ⟨hfit, by simp [hst], by simp [hst], fun _ => Or.inr (Or.inr (Switching.self ho rfl rfl))⟩
  | stopped ha hs hy =>
    obtain ⟨-, hx', hb'⟩ := standing_eq.mp hσ
    obtain ⟨hst, hrt, hal⟩ := standing_eq.mp hτ
    rcases hy with ⟨rfl, hx⟩ | ⟨rfl, rfl⟩
    · exact h.idle hfit hc ho (opens_not_switching ha) (by simp [hst]) (hrt.trans hx'.symm)
        (hal.trans hb'.symm) fun _ => by rwa [hx']
    · exact Coupled.dead hfit (by simp [hst]) (by simp [hrt]) hal
  | stopJoined spawn =>
    obtain ⟨-, -, hb⟩ := standing_eq.mp hσ
    obtain ⟨hst, hrt, hal⟩ := standing_eq.mp hτ
    have hdead : s.runtime.alive = false := by simpa [stopsWell] using hgo
    exact Coupled.dead hfit (by simp [hst]) (by simp [hrt]) (hal.trans (hb.symm.trans hdead))
  | startFinds ha =>
    obtain ⟨hst, hrt, -⟩ := standing_eq.mp hτ
    exact Coupled.running hfit (by simp [hst]) hrt
  | startBounces e ha =>
    obtain ⟨-, hx', hb'⟩ := standing_eq.mp hσ
    obtain ⟨hst, hrt, hal⟩ := standing_eq.mp hτ
    exact h.idle hfit hc ho (opens_not_switching ha) (by simp [hst]) (hrt.trans hx'.symm)
      (hal.trans hb'.symm) (by simp [hst])
  | startOpens spawn ha hq =>
    obtain ⟨hst, hrt, hal⟩ := standing_eq.mp hτ
    cases spawn with
    | up => exact Coupled.running hfit (by simp [hst, Spawn.sessionStatus]) hrt
    | exited =>
      exact Coupled.dead hfit (by simp [hst, Spawn.sessionStatus]) (by simp [hrt, Spawn.status]) hal
    | refused reason =>
      exact Coupled.dead hfit (by simp [hst, Spawn.sessionStatus]) (by simp [hrt, Spawn.status]) hal
  | @startEnds _ st x b hq =>
    obtain ⟨hst, hrt, hal⟩ := standing_eq.mp hτ
    cases b with
    | true => exact Coupled.running hfit (by simp [hst]) hrt
    | false => exact Coupled.dead hfit (by simp [hst]) (by simp [hrt]) hal

lemma coupled_call (h : s.Coupled) (ht : s.callStep I (.call c k) = some t) : t.Coupled := by
  obtain ⟨hk, hc, rfl⟩ := call_scheduled ht
  have hsw : ∀ P, s.Switching P → (s.schedule c k).Switching P := by
    rintro P ⟨d, j, p, hd, hj, hp⟩
    have hdc : d ≠ c := by
      rintro rfl
      rw [hc] at hd
      cases hd
    exact ⟨d, j, p, (schedule_other hdc).trans hd, hj, hp⟩
  refine ⟨?_, h.stopped, fun hs => (h.active hs).imp_right (hsw _),
    fun hb => (h.alive hb).imp_right (Or.imp_right (hsw _))⟩
  intro d j p hd
  by_cases hdc : d = c
  · subst hdc
    rw [schedule_self] at hd
    cases hd
    exact ⟨hk, by rintro (hq | hq) <;> simp [Phase.sends, Phase.onWorker] at hq⟩
  · exact h.fits d j p ((schedule_other hdc).symm.trans hd)

lemma new_coupled (I : Interpreter ν) (sessionId : SessionId) (runtimeId : String) (started : Bool) :
    (new I sessionId runtimeId started).Coupled := by
  refine ⟨fun _ _ _ h => (by cases h), fun h => (by cases h), fun h => (by cases h), fun h => ?_⟩
  cases started with
  | true => exact Or.inl rfl
  | false => cases h

def upright : List CallAction :=
  [.call 0 .start, .act (.begin 0 .up), .call 1 (.reset none), .act (.begin 1 .up), .act (.send 1),
    .act (.work quietMachine), .act (.joined 1 .up), .call 2 .stop, .act (.begin 2 .up),
    .act (.send 2), .act (.work quietMachine), .act (.joined 2 .up)]

/-- The worker that a reset spawns cannot be started, and the session stays active. -/
def forsaken : List CallAction :=
  [.call 0 .start, .act (.begin 0 .up), .call 1 (.reset none), .act (.begin 1 .up), .act (.send 1),
    .act (.work quietMachine), .act (.joined 1 (.refused "Cannot allocate memory"))]

/-- A stop overtakes a reset, which then starts a worker for the stopped session. -/
def revived : List CallAction :=
  [.call 0 .start, .act (.begin 0 .up), .call 1 (.reset none), .act (.begin 1 .up), .call 2 .stop,
    .act (.begin 2 .up), .act (.send 1), .act (.work quietMachine), .act (.joined 1 .up)]

/-- The code of a cell runs out of time and heeds no signal; the session is stopped, its process stays. -/
def heedless : List CallAction :=
  [.call 0 .start, .act (.begin 0 .up), .call 1 (.executeCell "ignore" "1"), .act (.begin 1 .up),
    .act (.send 1), .act (.expire 1), .call 2 .stop, .act (.begin 2 .up), .act (.send 2), .act (.joined 2 .up)]

end ExecutionSession

end NotebookExecution.Execution
