import NotebookExecution.Execution.RuntimeManager
import NotebookExecution.Library.Runs

/-! Whether the registry of runtimes loses one that runs. `terminate_all` goes through a snapshot and
then clears the table; a start that fails registers its runtime without another look at the table. -/

namespace NotebookExecution.Execution

open Library Library.Runs

variable {ν : Type} {I : Interpreter ν}

namespace BaseRuntime

variable {r q u : BaseRuntime ν} {spawn : Spawn}

def Ending (r : BaseRuntime ν) : Prop := r.status = .terminating ∨ r.status = .terminated

lemma Ending.not_alive (h : r.Ending) : r.isAlive = false := by
  rcases h with h | h <;> rw [isAlive, h] <;> rfl

lemma stop_ending (r : BaseRuntime ν) : r.stop.1.Ending := by
  cases r with
  | sql k status => exact Or.inr rfl
  | python r =>
    change r.stop.1.status = .terminating ∨ r.stop.1.status = .terminated
    rw [PythonRuntime.stop]
    split_ifs with h₁ h₂
    · exact h₁
    · exact Or.inl rfl
    · exact Or.inr rfl

lemma stop_runtimeId (r : BaseRuntime ν) : r.stop.1.runtimeId = r.runtimeId := by
  cases r with
  | sql k status => rfl
  | python r =>
    change r.stop.1.runtimeId = r.runtimeId
    rw [PythonRuntime.stop]
    split_ifs <;> rfl

lemma start_runtimeId (I : Interpreter ν) (spawn : Spawn) (r : BaseRuntime ν) :
    (r.start I spawn).runtimeId = r.runtimeId := by
  cases r <;> rfl

lemma fail_runtimeId (r : BaseRuntime ν) : r.fail.runtimeId = r.runtimeId := by
  cases r <;> rfl

lemma fail_not_alive (r : BaseRuntime ν) : r.fail.isAlive = false := by
  cases r <;> rfl

lemma create_runtimeId {runtimeType : Option RuntimeType} {k : String}
    (h : RuntimeFactory.createRuntime I runtimeType k = some r) : r.runtimeId = k := by
  rcases runtimeType with - | - | - <;> cases h <;> rfl

structure Calmer (r q : BaseRuntime ν) : Prop where
  runtimeId : q.runtimeId = r.runtimeId
  alive : q.isAlive = true → r.isAlive = true

lemma Calmer.refl (r : BaseRuntime ν) : Calmer r r := ⟨rfl, id⟩

lemma Calmer.trans (h : Calmer r q) (h' : Calmer q u) : Calmer r u :=
  ⟨h'.runtimeId.trans h.runtimeId, fun ha => h.alive (h'.alive ha)⟩

lemma calmer_of_dead (hk : q.runtimeId = r.runtimeId) (h : q.isAlive = false) : Calmer r q :=
  ⟨hk, fun ha => absurd ha (by rw [h]; decide)⟩

lemma calmer_stop (r : BaseRuntime ν) : Calmer r r.stop.1 :=
  calmer_of_dead r.stop_runtimeId r.stop_ending.not_alive

lemma stopped_not_alive (r : BaseRuntime ν) : r.stopped.isAlive = false := by
  cases r <;> rfl

lemma calmer_stopped (r : BaseRuntime ν) : Calmer r r.stopped :=
  calmer_of_dead (by cases r <;> rfl) r.stopped_not_alive

lemma calmer_exit (r : BaseRuntime ν) : Calmer r r.exit := by
  cases r <;> exact ⟨rfl, id⟩

end BaseRuntime

namespace RuntimeManager

open BaseRuntime

variable {s t u : RuntimeManager ν} {c x y : CallId} {k : String} {p : Phase} {l rest : List CallId}
  {r q : BaseRuntime ν}

structure Calms (s t : RuntimeManager ν) : Prop where
  kept : ∀ x r, s.runtimes x = some r → ∃ q, t.runtimes x = some q ∧ Calmer r q
  missing : ∀ x, s.runtimes x = none → t.runtimes x = none

lemma Calms.refl (s : RuntimeManager ν) : Calms s s := ⟨fun _ r h => ⟨r, h, .refl r⟩, fun _ h => h⟩

lemma Calms.trans (h : Calms s t) (h' : Calms t u) : Calms s u := by
  refine ⟨fun x r hr => ?_, fun x hx => h'.missing x (h.missing x hx)⟩
  obtain ⟨q, hq, hrq⟩ := h.kept x r hr
  obtain ⟨v, hv, hqv⟩ := h'.kept x q hq
  exact ⟨v, hv, hrq.trans hqv⟩

lemma calms_set (h : s.runtimes x = some r) (hq : Calmer r q) : Calms s (s.setRuntime x q) := by
  constructor
  · intro y v hv
    by_cases hy : y = x
    · subst hy
      obtain rfl : r = v := Option.some_inj.mp (h.symm.trans hv)
      exact ⟨q, Function.update_self .., hq⟩
    · exact ⟨v, (Function.update_of_ne hy ..).trans hv, .refl v⟩
  · intro y hy
    have hne : y ≠ x := by
      rintro rfl
      rw [h] at hy
      cases hy
    exact (Function.update_of_ne hne ..).trans hy

lemma Calms.back (h : Calms s t) (hq : t.runtimes x = some q) :
    ∃ r, s.runtimes x = some r ∧ Calmer r q := by
  cases hs : s.runtimes x with
  | none =>
    rw [h.missing x hs] at hq
    cases hq
  | some r =>
    obtain ⟨v, hv, hrv⟩ := h.kept x r hs
    obtain rfl : v = q := Option.some_inj.mp (hv.symm.trans hq)
    exact ⟨r, rfl, hrv⟩

lemma running_iff : s.running x = true ↔ ∃ r, s.runtimes x = some r ∧ r.isAlive = true := by
  rw [running, Option.any_eq_true]

lemma Calms.running (h : Calms s t) (ht : t.running x = true) : s.running x = true := by
  obtain ⟨q, hq, ha⟩ := running_iff.mp ht
  obtain ⟨r, hr, hrq⟩ := h.back hq
  exact running_iff.mpr ⟨r, hr, hrq.alive ha⟩

lemma Calms.leave (h : Calms s t) (c : CallId) (p : Phase) : Calms s (t.leave c p) := ⟨h.kept, h.missing⟩

lemma Calms.not_running (h : Calms s t) (hs : s.running x = false) : t.running x = false := by
  rw [← Bool.not_eq_true] at hs ⊢
  exact fun ht => hs (h.running ht)

lemma setRuntime_self : (s.setRuntime x r).runtimes x = some r := Function.update_self ..

lemma setRuntime_other (h : y ≠ x) : (s.setRuntime x r).runtimes y = s.runtimes y :=
  Function.update_of_ne h ..

def Stops (r : BaseRuntime ν) : Prop := r.status = .starting ∨ r.status = .running

lemma Stops.not_ending (h : Stops r) : ¬ r.Ending := by
  intro he
  rcases h with h | h <;> rcases he with he | he <;> rw [h] at he <;> cases he

structure Passes (s : RuntimeManager ν) (x : CallId) (t : RuntimeManager ν) : Prop where
  calms : Calms s t
  registry : t.registry = s.registry
  calls : t.calls = s.calls
  other : ∀ y, y ≠ x → t.runtimes y = s.runtimes y
  done : ∀ r, t.runtimes x = some r → ¬ Stops r

lemma sweep_missing (h : s.runtimes x = none) (rest : List CallId) :
    s.sweep (x :: rest) = s.sweep rest := by
  rw [sweep, h]

lemma sweep_skips (h : s.runtimes x = some r) (hr : ¬ Stops r) (rest : List CallId) :
    s.sweep (x :: rest) = s.sweep rest := by
  rw [sweep, h]
  exact if_neg hr

lemma sweep_stops (h : s.runtimes x = some r) (hr : Stops r) (rest : List CallId) :
    s.sweep (x :: rest) =
      if r.stop.2 then (s.setRuntime x r.stop.1, some (x, rest))
      else (s.setRuntime x r.stop.1).sweep rest := by
  rw [sweep, h]
  exact if_pos hr

lemma sweep_cons (s : RuntimeManager ν) (x : CallId) (rest : List CallId) :
    (∃ r, s.runtimes x = some r ∧ Stops r ∧ r.stop.2 = true ∧
        s.sweep (x :: rest) = (s.setRuntime x r.stop.1, some (x, rest))) ∨
      (∀ r, s.runtimes x = some r → Stops r → r.stop.2 = false) ∧
        ∃ t, Passes s x t ∧ s.sweep (x :: rest) = t.sweep rest := by
  cases hx : s.runtimes x with
  | none =>
    have hdone : ∀ r, s.runtimes x = some r → ¬ Stops r := by
      intro r hr
      rw [hx] at hr
      cases hr
    refine Or.inr ⟨?_, s, ⟨.refl s, rfl, rfl, fun _ _ => rfl, hdone⟩, sweep_missing hx rest⟩
    intro r hr
    cases hr
  | some r =>
    by_cases hstops : Stops r
    · cases hw : r.stop.2 with
      | true =>
        refine Or.inl ⟨r, rfl, hstops, hw, ?_⟩
        rw [sweep_stops hx hstops, if_pos hw]
      | false =>
        refine Or.inr ⟨?_, s.setRuntime x r.stop.1, ⟨calms_set hx r.calmer_stop, rfl, rfl, ?_, ?_⟩, ?_⟩
        · intro q hq hs
          obtain rfl : r = q := Option.some_inj.mp hq
          exact hw
        · exact fun y hy => setRuntime_other hy
        · intro q hq hs
          obtain rfl : r.stop.1 = q := Option.some_inj.mp (setRuntime_self.symm.trans hq)
          exact hs.not_ending r.stop_ending
        · rw [sweep_stops hx hstops, hw, if_neg (by decide)]
    · have hdone : ∀ q, s.runtimes x = some q → ¬ Stops q := by
        intro q hq
        obtain rfl : r = q := Option.some_inj.mp (hx.symm.trans hq)
        exact hstops
      refine Or.inr ⟨?_, s, ⟨.refl s, rfl, rfl, fun _ _ => rfl, hdone⟩, sweep_skips hx hstops rest⟩
      intro q hq hs
      exact absurd hs (hdone q (hx.trans hq))

lemma sweep_calms (l : List CallId) (s : RuntimeManager ν) :
    Calms s (s.sweep l).1 ∧ (s.sweep l).1.registry = s.registry ∧ (s.sweep l).1.calls = s.calls := by
  induction l generalizing s with
  | nil => exact ⟨.refl s, rfl, rfl⟩
  | cons x rest ih =>
    rcases sweep_cons s x rest with ⟨r, hr, -, -, he⟩ | ⟨-, t, ht, he⟩
    · rw [he]
      exact ⟨calms_set hr r.calmer_stop, rfl, rfl⟩
    · obtain ⟨hc, hg, hcalls⟩ := ih t
      rw [he]
      exact ⟨ht.calms.trans hc, hg.trans ht.registry, hcalls.trans ht.calls⟩

lemma sweep_other (h : y ∉ l) : (s.sweep l).1.runtimes y = s.runtimes y := by
  induction l generalizing s with
  | nil => rfl
  | cons x rest ih =>
    rw [List.mem_cons, not_or] at h
    rcases sweep_cons s x rest with ⟨r, -, -, -, he⟩ | ⟨-, t, ht, he⟩
    · rw [he]
      exact setRuntime_other h.1
    · rw [he, ih h.2]
      exact ht.other y h.1

lemma sweep_waits (h : (s.sweep l).2 = some (x, rest)) :
    ∃ r, (s.sweep l).1.runtimes x = some r ∧ r.isAlive = false := by
  induction l generalizing s with
  | nil => cases h
  | cons y l ih =>
    rcases sweep_cons s y l with ⟨r, -, -, -, he⟩ | ⟨-, t, -, he⟩
    · rw [he] at h ⊢
      cases h
      exact ⟨r.stop.1, setRuntime_self, r.stop_ending.not_alive⟩
    · rw [he] at h ⊢
      exact ih h

lemma sweep_over (h : (s.sweep l).2 = none) (hx : x ∈ l) : (s.sweep l).1.running x = false := by
  induction l generalizing s with
  | nil => cases hx
  | cons y l ih =>
    rcases sweep_cons s y l with ⟨r, -, -, -, he⟩ | ⟨-, t, ht, he⟩
    · rw [he] at h
      cases h
    · rw [he] at h ⊢
      rcases List.mem_cons.mp hx with rfl | hx
      · rw [← Bool.not_eq_true]
        intro hrun
        obtain ⟨r, hr, ha⟩ := running_iff.mp ((sweep_calms l t).1.running hrun)
        exact ht.done r hr (Or.inr (of_decide_eq_true ha))
      · exact ih h hx

def Idle (s : RuntimeManager ν) (l : List CallId) : Prop :=
  ∀ x ∈ l, ∀ r, s.runtimes x = some r → Stops r → r.stop.2 = false

lemma sweep_over_iff : (s.sweep l).2 = none ↔ Idle s l := by
  induction l generalizing s with
  | nil => exact iff_of_true rfl fun x hx => absurd hx List.not_mem_nil
  | cons y l ih =>
    rcases sweep_cons s y l with ⟨r, hr, hs, hw, he⟩ | ⟨hy, t, ht, he⟩
    · rw [he]
      refine iff_of_false (Option.some_ne_none _) fun hidle => ?_
      rw [hidle y List.mem_cons_self r hr hs] at hw
      cases hw
    · rw [he, ih]
      constructor
      · intro hidle x hx r hr hs
        by_cases hxy : x = y
        · subst hxy
          exact hy r hr hs
        · have hmem : x ∈ l := (List.mem_cons.mp hx).resolve_left hxy
          exact hidle x hmem r ((ht.other x hxy).trans hr) hs
      · intro hidle x hx r hr hs
        by_cases hxy : x = y
        · subst hxy
          exact absurd hs (ht.done r hr)
        · exact hidle x (List.mem_cons_of_mem y hx) r ((ht.other x hxy).symm.trans hr) hs

/-! ## Invariants -/

def Waits (p : Phase) (x : CallId) : Prop := p = .stopping x ∨ ∃ rest, p = .sweeping x rest

structure Tidy (s : RuntimeManager ν) : Prop where
  registered : ∀ k x, s.registry.get? k = some x → ∃ r, s.runtimes x = some r ∧ r.runtimeId = k
  returned : ∀ x, s.running x = true → s.calls x = some .returned
  polling : ∀ c k, s.calls c = some (.polling k) → ∃ r, s.runtimes c = some r ∧ r.runtimeId = k
  waiting : ∀ c p x, s.calls c = some p → Waits p x → ∃ r, s.runtimes x = some r ∧ r.isAlive = false
  fresh : ∀ c, s.calls c = none → s.runtimes c = none

def Kept (s : RuntimeManager ν) : Prop :=
  ∀ c r, s.calls c = some .returned → s.runtimes c = some r → r.isAlive = true →
    s.registry.get? r.runtimeId = some c

lemma tidy_empty : Tidy (empty : RuntimeManager ν) where
  registered k x h := by cases h
  returned x h := by cases h
  polling c k h := by cases h
  waiting c p x h := by cases h
  fresh c _ := rfl

lemma kept_empty : Kept (empty : RuntimeManager ν) := fun _ _ h => by cases h

lemma Tidy.calm (h : Tidy s) (hc : Calms s t) (hg : t.registry = s.registry) (hcalls : t.calls = s.calls) :
    Tidy t where
  registered k x hx := by
    rw [hg] at hx
    obtain ⟨r, hr, hk⟩ := h.registered k x hx
    obtain ⟨q, hq, hrq⟩ := hc.kept x r hr
    exact ⟨q, hq, hrq.runtimeId.trans hk⟩
  returned x hx := by
    rw [hcalls]
    exact h.returned x (hc.running hx)
  polling c k hp := by
    rw [hcalls] at hp
    obtain ⟨r, hr, hk⟩ := h.polling c k hp
    obtain ⟨q, hq, hrq⟩ := hc.kept c r hr
    exact ⟨q, hq, hrq.runtimeId.trans hk⟩
  waiting c p x hp hw := by
    rw [hcalls] at hp
    obtain ⟨r, hr, ha⟩ := h.waiting c p x hp hw
    obtain ⟨q, hq, hrq⟩ := hc.kept x r hr
    refine ⟨q, hq, ?_⟩
    rw [← Bool.not_eq_true]
    intro hqa
    rw [hrq.alive hqa] at ha
    cases ha
  fresh c hn := by
    rw [hcalls] at hn
    exact hc.missing c (h.fresh c hn)

lemma Tidy.clear (h : Tidy s) : Tidy { s with registry := .empty } where
  registered k x hx := by cases hx
  returned := h.returned
  polling := h.polling
  waiting := h.waiting
  fresh := h.fresh

lemma Tidy.register (h : Tidy s) (hr : s.runtimes x = some r) : Tidy (s.register r.runtimeId x) where
  registered j y hy := by
    rw [RuntimeManager.register, Dict.get?_set] at hy
    split_ifs at hy with hj
    · cases hy
      exact ⟨r, hr, hj.symm⟩
    · exact h.registered j y hy
  returned := h.returned
  polling := h.polling
  waiting := h.waiting
  fresh := h.fresh

structure Turns (s : RuntimeManager ν) (c : CallId) (p : Phase) : Prop where
  running : s.running c = true → p = .returned
  polling : ∀ k, p = .polling k → ∃ r, s.runtimes c = some r ∧ r.runtimeId = k
  waiting : ∀ x, Waits p x → ∃ r, s.runtimes x = some r ∧ r.isAlive = false

lemma turns_over (hp : p = .returned ∨ p = .raised) (h : s.running c = true → p = .returned) :
    Turns s c p := by
  refine ⟨h, fun k hk => ?_, fun x hx => ?_⟩
  · rcases hp with hp | hp <;> rw [hp] at hk <;> cases hk
  · rcases hx with hx | ⟨rest, hx⟩ <;> rcases hp with hp | hp <;> rw [hp] at hx <;> cases hx

lemma turns_raised (h : s.running c = false) : Turns s c .raised :=
  turns_over (Or.inr rfl) fun hr => absurd hr (by rw [h]; decide)

lemma turns_waits (h : s.running c = false) (hr : s.runtimes x = some r) (ha : r.isAlive = false)
    (hp : Waits p x) : Turns s c p := by
  refine ⟨fun hrun => ?_, fun k hk => ?_, fun y hy => ?_⟩
  · rw [h] at hrun
    cases hrun
  · rcases hp with hp | ⟨rest, hp⟩ <;> rw [hp] at hk <;> cases hk
  · have hxy : x = y := by
      rcases hp with hp | ⟨rest, hp⟩ <;> rw [hp] at hy <;> rcases hy with hy | ⟨l, hy⟩ <;> cases hy <;> rfl
    exact hxy ▸ ⟨r, hr, ha⟩

lemma leave_self : (s.leave c p).calls c = some p := Function.update_self ..

lemma leave_other (h : x ≠ c) : (s.leave c p).calls x = s.calls x := Function.update_of_ne h ..

lemma Tidy.leave (h : Tidy s) (ht : Turns s c p) : Tidy (s.leave c p) where
  registered := h.registered
  returned x hx := by
    by_cases hxc : x = c
    · subst hxc
      rw [leave_self, ht.running hx]
    · rw [leave_other hxc]
      exact h.returned x hx
  polling x k hp := by
    by_cases hxc : x = c
    · subst hxc
      rw [leave_self] at hp
      exact ht.polling k (Option.some_inj.mp hp)
    · rw [leave_other hxc] at hp
      exact h.polling x k hp
  waiting x q y hq hw := by
    by_cases hxc : x = c
    · subst hxc
      rw [leave_self] at hq
      obtain rfl := Option.some_inj.mp hq
      exact ht.waiting y hw
    · rw [leave_other hxc] at hq
      exact h.waiting x q y hq hw
  fresh x hx := by
    by_cases hxc : x = c
    · subst hxc
      rw [leave_self] at hx
      cases hx
    · rw [leave_other hxc] at hx
      exact h.fresh x hx

lemma Tidy.make (h : Tidy s) (hc : s.calls c = none) (ha : r.isAlive = true → p = .returned)
    (hp : p = .returned ∨ p = .raised ∨ p = .polling r.runtimeId) :
    Tidy ((s.setRuntime c r).leave c p) := by
  have hnone : s.runtimes c = none := h.fresh c hc
  have hother : ∀ x q, s.runtimes x = some q → (s.setRuntime c r).runtimes x = some q := by
    intro x q hx
    have hne : x ≠ c := by
      rintro rfl
      rw [hnone] at hx
      cases hx
    rw [setRuntime_other hne, hx]
  constructor
  case registered =>
    intro k x hx
    obtain ⟨q, hq, hk⟩ := h.registered k x hx
    exact ⟨q, hother x q hq, hk⟩
  case returned =>
    intro x hx
    obtain ⟨q, hq, hqa⟩ := running_iff.mp hx
    by_cases hxc : x = c
    · subst hxc
      obtain rfl : r = q := Option.some_inj.mp (setRuntime_self.symm.trans hq)
      rw [leave_self, ha hqa]
    · rw [leave_other hxc]
      exact h.returned x (running_iff.mpr ⟨q, (setRuntime_other hxc).symm.trans hq, hqa⟩)
  case polling =>
    intro x k hx
    by_cases hxc : x = c
    · subst hxc
      rw [leave_self] at hx
      obtain rfl := Option.some_inj.mp hx
      rcases hp with hp | hp | hp <;> cases hp
      exact ⟨r, setRuntime_self, rfl⟩
    · rw [leave_other hxc] at hx
      obtain ⟨q, hq, hk⟩ := h.polling x k hx
      exact ⟨q, hother x q hq, hk⟩
  case waiting =>
    intro x q y hx hw
    by_cases hxc : x = c
    · subst hxc
      rw [leave_self] at hx
      obtain rfl := Option.some_inj.mp hx
      rcases hw with hw | ⟨rest, hw⟩ <;> rw [hw] at hp <;> rcases hp with hp | hp | hp <;> cases hp
    · rw [leave_other hxc] at hx
      obtain ⟨v, hv, hva⟩ := h.waiting x q y hx hw
      exact ⟨v, hother y v hv, hva⟩
  case fresh =>
    intro x hx
    have hxc : x ≠ c := by
      rintro rfl
      rw [leave_self] at hx
      cases hx
    rw [leave_other hxc] at hx
    exact (setRuntime_other hxc).trans (h.fresh x hx)

def Free (s : RuntimeManager ν) (k : String) : Prop := ∀ x, s.registry.get? k = some x → s.running x = false

lemma startRuntime_cases (I : Interpreter ν) (c : CallId) (runtimeType : Option RuntimeType) (k : String)
    (spawn : Spawn) (s : RuntimeManager ν) :
    s.startRuntime I c runtimeType k spawn = s.leave c .raised ∨
      ∃ r : BaseRuntime ν, r.runtimeId = k ∧
        (r.isAlive = false ∧
            s.startRuntime I c runtimeType k spawn = (s.setRuntime c r).leave c (.polling k) ∨
          Free s k ∧ ∃ p, (p = .returned ∨ p = .raised) ∧ (r.isAlive = true → p = .returned) ∧
            s.startRuntime I c runtimeType k spawn = ((s.setRuntime c r).register k c).leave c p) := by
  rw [startRuntime]
  split_ifs with hrun
  · exact Or.inl rfl
  · have hfree : Free s k := by
      intro x hx
      rw [hx, Option.any_some, Bool.not_eq_true] at hrun
      exact hrun
    cases hr : RuntimeFactory.createRuntime I runtimeType k with
    | none => exact Or.inl rfl
    | some r =>
      have hid : (r.start I spawn).runtimeId = k := (start_runtimeId I spawn r).trans (create_runtimeId hr)
      apply Or.inr
      dsimp only
      cases hst : (r.start I spawn).status with
      | running =>
        exact ⟨_, hid, Or.inr ⟨hfree, .returned, Or.inl rfl, fun _ => rfl, rfl⟩⟩
      | starting =>
        have ha : (r.start I spawn).isAlive = false := by
          rw [isAlive, hst]
          rfl
        exact ⟨_, hid, Or.inl ⟨ha, rfl⟩⟩
      | terminating | terminated | failed =>
        refine ⟨_, (fail_runtimeId _).trans hid, Or.inr ⟨hfree, .raised, Or.inr rfl, ?_, rfl⟩⟩
        intro ha
        rw [fail_not_alive] at ha
        cases ha

lemma setStopped_calms (x : CallId) (s : RuntimeManager ν) : Calms s (s.setStopped x) := by
  rw [setStopped]
  cases hx : s.runtimes x with
  | none => exact .refl s
  | some r => exact calms_set hx r.calmer_stopped

lemma setStopped_registry (x : CallId) (s : RuntimeManager ν) :
    (s.setStopped x).registry = s.registry ∧ (s.setStopped x).calls = s.calls := by
  rw [setStopped]
  cases s.runtimes x <;> exact ⟨rfl, rfl⟩

lemma setStopped_running (h : s.running x = false) (y : CallId) : (s.setStopped x).running y = s.running y := by
  rw [setStopped]
  cases hx : s.runtimes x with
  | none => rfl
  | some r =>
    by_cases hy : y = x
    · subst hy
      rw [h, running, setRuntime_self]
      exact r.stopped_not_alive
    · rw [running, running, setRuntime_other hy]

lemma terminate_cases (s : RuntimeManager ν) (c : CallId) (l : List CallId) :
    ∃ t, Calms s t ∧ t.registry = s.registry ∧ t.calls = s.calls ∧
      (Idle s l ∧ (∀ x ∈ l, t.running x = false) ∧ (∀ y, y ∉ l → t.runtimes y = s.runtimes y) ∧
          s.terminate c l = { t with registry := .empty }.leave c .returned ∨
        ¬ Idle s l ∧ ∃ x rest r, t.runtimes x = some r ∧ r.isAlive = false ∧
          s.terminate c l = t.leave c (.sweeping x rest)) := by
  obtain ⟨hc, hg, hcalls⟩ := sweep_calms l s
  refine ⟨(s.sweep l).1, hc, hg, hcalls, ?_⟩
  cases ho : (s.sweep l).2 with
  | none =>
    refine Or.inl ⟨sweep_over_iff.mp ho, fun x hx => sweep_over ho hx, fun y hy => sweep_other hy, ?_⟩
    rw [terminate, show s.sweep l = ((s.sweep l).1, none) from Prod.ext rfl ho]
  | some w =>
    obtain ⟨x, rest⟩ := w
    obtain ⟨r, hr, ha⟩ := sweep_waits ho
    refine Or.inr ⟨fun hi => ?_, x, rest, r, hr, ha, ?_⟩
    · rw [sweep_over_iff.mpr hi] at ho
      cases ho
    · rw [terminate, show s.sweep l = ((s.sweep l).1, some (x, rest)) from Prod.ext rfl ho]

lemma stopRuntime_cases (h : Tidy s) (c : CallId) (k : String) :
    s.stopRuntime c k = s.leave c .raised ∨ ∃ x r, s.runtimes x = some r ∧
      s.stopRuntime c k = (s.setRuntime x r.stop.1).leave c (if r.stop.2 then .stopping x else .returned) := by
  rw [stopRuntime]
  cases hx : s.registry.get? k with
  | none => exact Or.inl rfl
  | some x =>
    obtain ⟨r, hr, -⟩ := h.registered k x hx
    refine Or.inr ⟨x, r, hr, ?_⟩
    dsimp only
    rw [hr]

inductive Does (I : Interpreter ν) (s : RuntimeManager ν) : Action → RuntimeManager ν → Prop
  | start {c : CallId} (runtimeType : Option RuntimeType) (k : String) (spawn : Spawn)
      (hc : s.calls c = none) :
      Does I s (.start c runtimeType k spawn) (s.startRuntime I c runtimeType k spawn)
  | stop {c : CallId} (k : String) (hc : s.calls c = none) : Does I s (.stop c k) (s.stopRuntime c k)
  | terminateAll {c : CallId} (hc : s.calls c = none) :
      Does I s (.terminateAll c) (s.terminate c s.registry.values)
  | fails {c : CallId} {r : BaseRuntime ν} (hc : s.calls c = some (.polling r.runtimeId))
      (hr : s.runtimes c = some r) :
      Does I s (.resume c) (((s.setRuntime c r.fail).register r.runtimeId c).leave c .raised)
  | stopped {c x : CallId} (hc : s.calls c = some (.stopping x)) :
      Does I s (.resume c) ((s.setStopped x).leave c .returned)
  | sweeps {c x : CallId} {rest : List CallId} (hc : s.calls c = some (.sweeping x rest)) :
      Does I s (.resume c) ((s.setStopped x).terminate c rest)
  | exit {x : CallId} {r : BaseRuntime ν} (hx : s.runtimes x = some r) :
      Does I s (.exit x) (s.setRuntime x r.exit)

lemma step_does {a : Action} (h : Tidy s) (ht : step I s a = some t) : Does I s a t := by
  cases a with
  | start c runtimeType k spawn =>
    obtain ⟨hc, ht⟩ := Option.ite_none_right_eq_some.mp ht
    cases ht
    exact .start runtimeType k spawn hc
  | stop c k =>
    obtain ⟨hc, ht⟩ := Option.ite_none_right_eq_some.mp ht
    cases ht
    exact .stop k hc
  | terminateAll c =>
    obtain ⟨hc, ht⟩ := Option.ite_none_right_eq_some.mp ht
    cases ht
    exact .terminateAll hc
  | resume c =>
    rw [step] at ht
    split at ht
    · next k hc =>
      obtain rfl := Option.some_inj.mp ht
      obtain ⟨r, hr, rfl⟩ := h.polling c k hc
      rw [startFails, hr]
      exact .fails hc hr
    · next x hc =>
      obtain rfl := Option.some_inj.mp ht
      exact .stopped hc
    · next x rest hc =>
      obtain rfl := Option.some_inj.mp ht
      exact .sweeps hc
    · cases ht
  | exit x =>
    obtain ⟨r, hx, rfl⟩ := Option.map_eq_some_iff.mp ht
    exact .exit hx

lemma tidy_terminate (h : Tidy s) (hc : s.running c = false) : Tidy (s.terminate c l) := by
  obtain ⟨t, hcalm, hg, hcalls, ⟨-, -, -, he⟩ | ⟨-, x, rest, r, hr, ha, he⟩⟩ := terminate_cases s c l
  · rw [he]
    exact (h.calm hcalm hg hcalls).clear.leave (turns_over (Or.inl rfl) fun _ => rfl)
  · rw [he]
    exact (h.calm hcalm hg hcalls).leave (turns_waits (hcalm.not_running hc) hr ha (Or.inr ⟨rest, rfl⟩))

lemma Tidy.not_running (h : Tidy s) (hc : s.calls c ≠ some .returned) : s.running c = false := by
  rw [← Bool.not_eq_true]
  exact fun hrun => hc (h.returned c hrun)

lemma tidy_start (h : Tidy s) (hc : s.calls c = none) (runtimeType : Option RuntimeType) (k : String)
    (spawn : Spawn) : Tidy (s.startRuntime I c runtimeType k spawn) := by
  have hrun : s.running c = false := h.not_running (by rw [hc]; simp)
  rcases startRuntime_cases I c runtimeType k spawn s with
    he | ⟨r, rfl, ⟨ha, he⟩ | ⟨-, p, hp, ha, he⟩⟩
  · rw [he]
    exact h.leave (turns_raised hrun)
  · rw [he]
    refine h.make hc (fun hr => ?_) (Or.inr (Or.inr rfl))
    rw [ha] at hr
    cases hr
  · rw [he]
    have hmade : Tidy ((s.setRuntime c r).leave c p) := h.make hc ha (by tauto)
    exact hmade.register (x := c) (r := r) setRuntime_self

lemma tidy_stop (h : Tidy s) (hc : s.running c = false) (k : String) : Tidy (s.stopRuntime c k) := by
  rcases stopRuntime_cases h c k with he | ⟨x, r, hr, he⟩
  · rw [he]
    exact h.leave (turns_raised hc)
  · have hcalm : Calms s (s.setRuntime x r.stop.1) := calms_set hr r.calmer_stop
    rw [he]
    apply (h.calm hcalm rfl rfl).leave
    split_ifs
    · exact turns_waits (hcalm.not_running hc) setRuntime_self r.stop_ending.not_alive (Or.inl rfl)
    · exact turns_over (Or.inl rfl) fun _ => rfl

lemma tidy_setStopped (h : Tidy s) (x : CallId) : Tidy (s.setStopped x) := by
  obtain ⟨hg, hcalls⟩ := setStopped_registry x s
  exact h.calm (setStopped_calms x s) hg hcalls

lemma calms_fail (hr : s.runtimes c = some r) : Calms s (s.setRuntime c r.fail) :=
  calms_set hr (calmer_of_dead r.fail_runtimeId r.fail_not_alive)

lemma tidy_step {a : Action} (h : Tidy s) (ht : step I s a = some t) : Tidy t := by
  cases step_does h ht with
  | start runtimeType k spawn hc => exact tidy_start h hc runtimeType k spawn
  | stop k hc => exact tidy_stop h (h.not_running (by rw [hc]; simp)) k
  | terminateAll hc => exact tidy_terminate h (h.not_running (by rw [hc]; simp))
  | @fails c r hc hr =>
    have hset : Tidy (s.setRuntime c r.fail) := h.calm (calms_fail hr) rfl rfl
    have hreg : Tidy ((s.setRuntime c r.fail).register r.fail.runtimeId c) := hset.register setRuntime_self
    rw [← r.fail_runtimeId]
    exact hreg.leave (turns_raised ((calms_fail hr).not_running (h.not_running (by rw [hc]; simp))))
  | @stopped c x hc => exact (tidy_setStopped h x).leave (turns_over (Or.inl rfl) fun _ => rfl)
  | @sweeps c x rest hc =>
    refine tidy_terminate (tidy_setStopped h x) ((tidy_setStopped h x).not_running ?_)
    rw [(setStopped_registry x s).2, hc]
    simp
  | @exit x r hx => exact h.calm (calms_set hx r.calmer_exit) rfl rfl

/-! ## Which steps lose a runtime -/

/-- A start that has failed finds no running runtime under its identifier, and a sweep does not clear the
table while a runtime runs that it has not before it. -/
def Careful (s : RuntimeManager ν) : Action → Prop
  | .resume c => (∀ k, s.calls c = some (.polling k) → Free s k) ∧
      ∀ x rest, s.calls c = some (.sweeping x rest) → Idle (s.setStopped x) rest →
        ∀ y ∈ s.registry.values, s.running y = true → y ∈ rest
  | _ => True

lemma kept_calm (hs : Tidy s) (hk : Kept s) (hc : Calms s t) (hg : t.registry = s.registry) : Kept t := by
  intro x q _ hq ha
  obtain ⟨r, hr, hrq⟩ := hc.back hq
  have hra : r.isAlive = true := hrq.alive ha
  rw [hg, hrq.runtimeId]
  exact hk x r (hs.returned x (running_iff.mpr ⟨r, hr, hra⟩)) hr hra

lemma kept_register_iff (hs : Tidy s) (hk : Kept s) (hc : s.running c = false) :
    Kept (((s.setRuntime c r).register r.runtimeId c).leave c p) ↔ Free s r.runtimeId := by
  have hother : ∀ {x}, x ≠ c →
      (((s.setRuntime c r).register r.runtimeId c).leave c p).runtimes x = s.runtimes x :=
    fun hx => setRuntime_other hx
  constructor
  · intro h x hx
    rw [← Bool.not_eq_true]
    intro hrun
    have hxc : x ≠ c := by
      rintro rfl
      rw [hc] at hrun
      cases hrun
    obtain ⟨q, hq, ha⟩ := running_iff.mp hrun
    obtain ⟨q', hq', hid⟩ := hs.registered _ x hx
    obtain rfl : q = q' := Option.some_inj.mp (hq.symm.trans hq')
    have hfound := h x q ((leave_other hxc).trans (hs.returned x hrun)) ((hother hxc).trans hq) ha
    have hset : (s.registry.set r.runtimeId c).get? q.runtimeId = some x := hfound
    rw [hid, Dict.get?_set_self] at hset
    exact hxc (Option.some_inj.mp hset).symm
  · intro h x q hx hq ha
    change (s.registry.set r.runtimeId c).get? q.runtimeId = some x
    by_cases hxc : x = c
    · subst hxc
      obtain rfl : r = q := Option.some_inj.mp (setRuntime_self.symm.trans hq)
      exact Dict.get?_set_self
    · rw [hother hxc] at hq
      have hrun : s.running x = true := running_iff.mpr ⟨q, hq, ha⟩
      have hfound : s.registry.get? q.runtimeId = some x := hk x q (hs.returned x hrun) hq ha
      rw [Dict.get?_set]
      split_ifs with hid
      · rw [hid] at hfound
        rw [h x hfound] at hrun
        cases hrun
      · exact hfound

lemma kept_terminate_iff (hs : Tidy s) (hk : Kept s) (hc : s.running c = false) :
    Kept (s.terminate c l) ↔ (Idle s l → ∀ y ∈ s.registry.values, s.running y = true → y ∈ l) := by
  obtain ⟨t, hcalm, hg, hcalls, ⟨hi, hover, hother, he⟩ | ⟨hi, x, rest, r, -, -, he⟩⟩ := terminate_cases s c l
  · rw [he]
    constructor
    · intro h _ y _ hrun
      by_contra hy
      have hyc : y ≠ c := by
        rintro rfl
        rw [hc] at hrun
        cases hrun
      obtain ⟨q, hq, ha⟩ := running_iff.mp hrun
      have hret : t.calls y = some .returned := hcalls ▸ hs.returned y hrun
      have hfound := h y q ((leave_other hyc).trans hret) ((hother y hy).trans hq) ha
      cases hfound
    · intro h x q _ hq ha
      have hrun : t.running x = true := running_iff.mpr ⟨q, hq, ha⟩
      obtain ⟨r, hr, hra⟩ := running_iff.mp (hcalm.running hrun)
      have hfound := hk x r (hs.returned x (hcalm.running hrun)) hr hra
      have hmem : x ∈ l := h hi x (Dict.mem_values.mpr ⟨_, hfound⟩) (hcalm.running hrun)
      rw [hover x hmem] at hrun
      cases hrun
  · rw [he]
    exact iff_of_true (kept_calm hs hk (hcalm.leave c _) hg) fun h => absurd h hi

lemma kept_start (hs : Tidy s) (hk : Kept s) (hc : s.running c = false) (runtimeType : Option RuntimeType)
    (k : String) (spawn : Spawn) : Kept (s.startRuntime I c runtimeType k spawn) := by
  rcases startRuntime_cases I c runtimeType k spawn s with
    he | ⟨r, rfl, ⟨ha, he⟩ | ⟨hfree, p, -, -, he⟩⟩
  · rw [he]
    exact kept_calm hs hk ((Calms.refl s).leave c _) rfl
  · rw [he]
    intro x q hx hq hqa
    by_cases hxc : x = c
    · subst hxc
      obtain rfl : r = q := Option.some_inj.mp (setRuntime_self.symm.trans hq)
      rw [ha] at hqa
      cases hqa
    · exact hk x q ((leave_other hxc).symm.trans hx) ((setRuntime_other hxc).symm.trans hq) hqa
  · rw [he]
    exact (kept_register_iff hs hk hc).mpr hfree

lemma kept_stop (hs : Tidy s) (hk : Kept s) (c : CallId) (k : String) : Kept (s.stopRuntime c k) := by
  rcases stopRuntime_cases hs c k with he | ⟨x, r, hr, he⟩
  · rw [he]
    exact kept_calm hs hk ((Calms.refl s).leave c _) rfl
  · have hcalm : Calms s (s.setRuntime x r.stop.1) := calms_set hr r.calmer_stop
    rw [he]
    exact kept_calm hs hk (hcalm.leave c _) rfl

lemma kept_setStopped (hs : Tidy s) (hk : Kept s) (x : CallId) : Kept (s.setStopped x) :=
  kept_calm hs hk (setStopped_calms x s) (setStopped_registry x s).1

/-! What `Careful` asks of a call that goes on, for each of the phases it can be in. -/

lemma careful_polling (hc : s.calls c = some (.polling k)) : Careful s (.resume c) ↔ Free s k := by
  rw [Careful, hc]
  constructor
  · intro h
    exact h.1 k rfl
  · intro h
    refine ⟨fun j hj => ?_, fun x rest hx => by cases hx⟩
    cases hj
    exact h

lemma careful_stopping (hc : s.calls c = some (.stopping x)) : Careful s (.resume c) := by
  rw [Careful, hc]
  refine ⟨fun k hk => ?_, fun y rest hy => ?_⟩
  · cases hk
  · cases hy

lemma careful_sweeping (hc : s.calls c = some (.sweeping x rest)) : Careful s (.resume c) ↔
    (Idle (s.setStopped x) rest → ∀ y ∈ s.registry.values, s.running y = true → y ∈ rest) := by
  rw [Careful, hc]
  constructor
  · intro h
    exact h.2 x rest rfl
  · intro h
    refine ⟨fun k hk => ?_, fun y l hy => ?_⟩
    · cases hk
    · cases hy
      exact h

lemma kept_step_iff {a : Action} (hs : Tidy s) (hk : Kept s) (ht : step I s a = some t) :
    Kept t ↔ Careful s a := by
  cases step_does hs ht with
  | start runtimeType k spawn hc =>
    exact iff_of_true (kept_start hs hk (hs.not_running (by rw [hc]; simp)) runtimeType k spawn) trivial
  | stop k hc => exact iff_of_true (kept_stop hs hk _ k) trivial
  | terminateAll hc =>
    refine iff_of_true ?_ trivial
    exact (kept_terminate_iff hs hk (hs.not_running (by rw [hc]; simp))).mpr fun _ y hy _ => hy
  | @fails c r hc hr =>
    have hrun : s.running c = false := hs.not_running (by rw [hc]; simp)
    rw [careful_polling hc, ← r.fail_runtimeId]
    exact kept_register_iff hs hk hrun
  | @stopped c x hc =>
    have hkept : Kept ((s.setStopped x).leave c .returned) :=
      kept_calm hs hk ((setStopped_calms x s).leave c _) (setStopped_registry x s).1
    exact iff_of_true hkept (careful_stopping hc)
  | @sweeps c x rest hc =>
    obtain ⟨q, hq, ha⟩ := hs.waiting c _ x hc (Or.inr ⟨rest, rfl⟩)
    have hx : s.running x = false := by rw [running, hq, Option.any_some, ha]
    have hrun : (s.setStopped x).running c = false :=
      (setStopped_calms x s).not_running (hs.not_running (by rw [hc]; simp))
    rw [careful_sweeping hc, kept_terminate_iff (tidy_setStopped hs x) (kept_setStopped hs hk x) hrun,
      (setStopped_registry x s).1]
    simp only [setStopped_running hx]
  | @exit x r hx => exact iff_of_true (kept_calm hs hk (calms_set hx r.calmer_exit) rfl) trivial

theorem runtimes_kept_iff (I : Interpreter ν) (as : List Action) :
    Along (step I) (fun _ _ t => Kept t) empty as ↔
      Along (step I) (fun s a _ => Careful s a) empty as :=
  along_iff_of_invariant (fun _ _ _ hs ht => tidy_step hs ht)
    (fun _ _ _ hs hk ht => kept_step_iff hs hk ht) tidy_empty kept_empty

/-- The second runtime is started while `terminate_all` waits for the first. -/
def startedMeanwhile : List Action :=
  [.start 0 (some .python) "a" .up, .terminateAll 1, .start 2 (some .python) "b" .up, .resume 1]

theorem runtime_dropped :
    (∃ t, exec (step echo) empty startedMeanwhile = some t ∧ t.running 2 = true ∧
      t.calls 2 = some .returned ∧ t.registry.values = []) ∧
    ¬ ∀ as, Along (step echo) (fun _ _ t => Kept t) empty as := by
  obtain ⟨t, ht⟩ : ∃ t, exec (step echo) empty startedMeanwhile = some t := ⟨_, rfl⟩
  have hrun : t.running 2 = true ∧ t.calls 2 = some .returned ∧ t.registry.get? "b" = none ∧
      t.registry.values = [] := by
    cases ht
    exact ⟨rfl, rfl, rfl, rfl⟩
  have hid : (t.runtimes 2).map BaseRuntime.runtimeId = some "b" := by
    cases ht
    rfl
  obtain ⟨ha, hc, hlost, hv⟩ := hrun
  refine ⟨⟨t, ht, ha, hc, hv⟩, fun h => ?_⟩
  obtain ⟨r, hr, hra⟩ := running_iff.mp ha
  rw [hr] at hid
  have hfound := (h startedMeanwhile).reach kept_empty ht 2 r hc hr hra
  rw [Option.some_inj.mp hid, hlost] at hfound
  cases hfound

end RuntimeManager

end NotebookExecution.Execution
