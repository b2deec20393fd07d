import NotebookExecution.Execution.Sessions
import NotebookExecution.Library.Runs

/-! Cells that are called together on one session, and a ledger of what has become of them: which have
returned, which one holds the lock, which wait. One interpreter that is given the codes in the order
of the ledger is what the session is compared with. -/

namespace NotebookExecution.Execution

open Library.Runs

variable {ν : Type} {I : Interpreter ν}

/-- What a call of a cell is told of its code. -/
structure CellOutcome where
  status : String
  stdout : String
  stderr : String
  traceback : Option String
  deriving DecidableEq

def Message.outcome (m : Message) : CellOutcome :=
  ⟨m.status, m.stdout.getD "", m.stderr.getD "", m.traceback⟩

namespace Interpreter

def cell (I : Interpreter ν) (code : String) (space : ν) : Option (ν × CellOutcome) :=
  match I.exec code space with
  | .ok next stdout stderr => some (next, ⟨"ok", stdout, stderr, none⟩)
  | .raised next stdout stderr traceback => some (next, ⟨"error", stdout, stderr, some traceback⟩)
  | .escaped => none

def sequence (I : Interpreter ν) : ν → List String → Option (ν × List CellOutcome)
  | space, [] => some (space, [])
  | space, code :: codes =>
    (I.cell code space).bind fun x => (I.sequence x.1 codes).map fun y => (y.1, x.2 :: y.2)

lemma sequence_concat {codes : List String} {code : String} {space mid last : ν}
    {outs : List CellOutcome} {o : CellOutcome} (h : I.sequence space codes = some (mid, outs))
    (hc : I.cell code mid = some (last, o)) :
    I.sequence space (codes ++ [code]) = some (last, outs ++ [o]) := by
  induction codes generalizing space outs with
  | nil =>
    obtain ⟨rfl, rfl⟩ : space = mid ∧ [] = outs := by simpa [sequence] using h
    simp [sequence, hc]
  | cons d codes ih =>
    rw [sequence] at h
    obtain ⟨x, hx, hm⟩ := Option.bind_eq_some_iff.mp h
    obtain ⟨y, hy, he⟩ := Option.map_eq_some_iff.mp hm
    obtain ⟨rfl, rfl⟩ : y.1 = mid ∧ x.2 :: y.2 = outs := by simpa using he
    rw [List.cons_append, sequence, hx, Option.bind_some, ih hy]
    rfl

end Interpreter

lemma serveCommand_execute (machine : Machine) (k : RequestId) (code : String) (space : ν) :
    serveCommand I machine space (.execute k code) = (I.cell code space).map fun x =>
      (x.1, executed k machine x.2.status x.2.stdout x.2.stderr x.2.traceback) := by
  simp only [serveCommand, Interpreter.cell]
  cases I.exec code space <;> rfl

namespace Phase

def outcome : Phase → Option CellOutcome
  | .returned m => some m.outcome
  | _ => none

def talks : Phase → Bool
  | .sending _ | .polling | .probing _ | .ready | .receiving _ => true
  | _ => false

def weight : Phase → ℕ
  | .scheduled => 8
  | .waiting => 7
  | .sending _ => 6
  | .polling => 4
  | .probing _ => 3
  | .ready => 2
  | .receiving _ => 1
  | _ => 0

lemma not_ended_of_talks {p : Phase} (h : p.talks = true) : p.ended = false := by
  cases p <;> first | rfl | cases h

end Phase

namespace ExecutionSession

variable {s t : ExecutionSession ν} {c d : OpId} {a : SessionAction} {calls : Finset OpId}

def codeOf (s : ExecutionSession ν) (c : OpId) : String :=
  match s.ops c with
  | some ⟨.executeCell code _, _⟩ => code
  | _ => ""

def outcomeOf (s : ExecutionSession ν) (c : OpId) : Option CellOutcome :=
  (s.phaseOf c).bind Phase.outcome

def acquires (s : ExecutionSession ν) : SessionAction → Option OpId
  | .begin c _ => if s.lock = [] then some c else none
  | .grant c _ => some c
  | _ => none

def executes (s : ExecutionSession ν) : SessionAction → Option Command
  | .work _ => s.runtime.pipe.requests.head?
  | _ => none

def acquired (I : Interpreter ν) (s : ExecutionSession ν) (as : List SessionAction) : List OpId :=
  trace (step I) acquires s as

def executions (I : Interpreter ν) (s : ExecutionSession ν) (as : List SessionAction) : List Command :=
  trace (step I) executes s as

structure Serving (s : ExecutionSession ν) : Prop where
  status : s.status = .active
  running : s.runtime.isAlive = true
  alive : s.runtime.alive = true
  opened : s.runtime.pipe.opened = true

lemma Serving.up {s : ExecutionSession ν} (h : s.Serving) : s.runtime.up = true := by
  rw [PythonRuntime.up, h.running, h.alive]
  rfl

structure Quiet (calls : Finset OpId) (s : ExecutionSession ν) : Prop extends s.Serving where
  requests : s.runtime.pipe.requests = []
  responses : s.runtime.pipe.responses = []
  lock : s.lock = []
  scheduled : ∀ c ∈ calls, ∃ code timeout, s.ops c = some ⟨.executeCell code timeout, .scheduled⟩
  rest : ∀ c ∉ calls, ∀ k p, s.ops c = some ⟨k, p⟩ → p.ended = true ∧ p.stray = false

lemma created_quiet (I : Interpreter ν) (sessionId : SessionId) (runtimeId : String) :
    (created I sessionId runtimeId).Quiet ∅ where
  status := rfl
  running := rfl
  alive := rfl
  opened := rfl
  requests := rfl
  responses := rfl
  lock := rfl
  scheduled := by simp
  rest := by simp [created]

lemma Quiet.schedule (h : s.Quiet calls) (hc : s.ops c = none) (code : String) (timeout : Seconds) :
    (s.schedule c (.executeCell code timeout)).Quiet (insert c calls) where
  toServing := ⟨h.status, h.running, h.alive, h.opened⟩
  requests := h.requests
  responses := h.responses
  lock := h.lock
  scheduled := by
    intro d hd
    by_cases hdc : d = c
    · subst hdc
      exact ⟨code, timeout, schedule_self⟩
    · rw [schedule_other hdc]
      exact h.scheduled d (Finset.mem_of_mem_insert_of_ne hd hdc)
  rest := by
    intro d hd k p hk
    rw [Finset.mem_insert, not_or] at hd
    rw [schedule_other hd.1] at hk
    exact h.rest d hd.2 k p hk


/-- The call that holds the lock with its phase, the traffic of its pipe, the commands the worker has
run for it and the namespace, which was `space` when the call acquired the lock. -/
inductive Holding (I : Interpreter ν) (g : ℕ) (code : OpId → String) (space : ν) :
    List (OpId × Phase) → List Command → List Message → List Command → ν → Prop
  | free : Holding I g code space [] [] [] [] space
  | unsent (c : OpId) : Holding I g code space [(c, .sending g)] [] [] [] space
  | queued (c : OpId) {p : Phase} (hp : p = .polling ∨ p = .probing g) :
      Holding I g code space [(c, p)] [.execute c (code c)] [] [] space
  | answered (c : OpId) {p : Phase} {m : Message} {next : ν}
      (hp : p = .polling ∨ p = .probing g ∨ p = .ready ∨ p = .receiving g)
      (hm : I.cell (code c) space = some (next, m.outcome)) :
      Holding I g code space [(c, p)] [] [m] [.execute c (code c)] next

/-- Calls in the order in which they acquired the lock: those that have returned, the one that holds
it with the commands run for it, and those that wait. `before` is the namespace the returned ones
left. -/
structure Ledger (ν : Type) where
  done : List (OpId × Message)
  holder : List (OpId × Phase)
  waiting : List OpId
  before : ν
  ran : List Command

namespace Ledger

variable (L : Ledger ν)

def places : List (OpId × Phase) :=
  L.done.map (fun x => (x.1, .returned x.2)) ++ L.holder ++ L.waiting.map fun c => (c, .waiting)

def order : List OpId := L.done.map Prod.fst ++ L.holder.map Prod.fst

def commands (code : OpId → String) : List Command :=
  (L.done.map fun x => .execute x.1 (code x.1)) ++ L.ran

lemma ids_places :
    L.places.map Prod.fst = L.done.map Prod.fst ++ L.holder.map Prod.fst ++ L.waiting := by
  simp [places, Function.comp_def]

variable {L}

lemma mem_places {x : OpId × Phase} : x ∈ L.places ↔
    (∃ y ∈ L.done, (y.1, .returned y.2) = x) ∨ x ∈ L.holder ∨ ∃ c ∈ L.waiting, (c, .waiting) = x := by
  simp only [places, List.mem_append, List.mem_map, or_assoc]

end Ledger

structure Placed (calls : Finset OpId) (code : OpId → String) (places : List (OpId × Phase))
    (s : ExecutionSession ν) : Prop where
  nodup : (places.map Prod.fst).Nodup
  subset : ∀ x ∈ places, x.1 ∈ calls
  kinds : ∀ c ∈ calls, ∃ timeout p, s.ops c = some ⟨.executeCell (code c) timeout, p⟩
  placed : ∀ x ∈ places, s.phaseOf x.1 = some x.2
  fresh : ∀ c ∈ calls, c ∉ places.map Prod.fst → s.phaseOf c = some .scheduled
  rest : ∀ c ∉ calls, ∀ k p, s.ops c = some ⟨k, p⟩ → p.ended = true ∧ p.stray = false

structure Serial (I : Interpreter ν) (calls : Finset OpId) (s₀ : ExecutionSession ν) (L : Ledger ν)
    (s : ExecutionSession ν) : Prop extends s.Serving where
  lock : s.lock = L.holder.map Prod.fst ++ L.waiting
  placed : Placed calls s₀.codeOf L.places s
  sequence : I.sequence s₀.runtime.space (L.done.map fun x => s₀.codeOf x.1) =
    some (L.before, L.done.map fun x => x.2.outcome)
  holding : Holding I s.runtime.generation s₀.codeOf L.before L.holder s.runtime.pipe.requests
    s.runtime.pipe.responses L.ran s.runtime.space

variable {s₀ : ExecutionSession ν} {L : Ledger ν} {k : Kind} {p q : Phase} {code : OpId → String}
  {places places' : List (OpId × Phase)}

lemma phaseOf_eq (h : s.ops c = some ⟨k, p⟩) : s.phaseOf c = some p := by
  rw [phaseOf, h]
  rfl

lemma Placed.update (h : Placed calls code places s) (hk : s.ops c = some ⟨k, p⟩) (hc : c ∈ calls)
    (ho : t.ops = Function.update s.ops c (some ⟨k, q⟩)) (hn : (places'.map Prod.fst).Nodup)
    (hq : (c, q) ∈ places') (hin : ∀ x ∈ places', x = (c, q) ∨ x ∈ places)
    (hout : ∀ x ∈ places, x.1 ∈ places'.map Prod.fst) : Placed calls code places' t := by
  have hself : t.ops c = some ⟨k, q⟩ := by rw [ho, Function.update_self]
  have hother : ∀ d, d ≠ c → t.ops d = s.ops d := by
    intro d hd
    rw [ho, Function.update_of_ne hd]
  have hphase : ∀ d, d ≠ c → t.phaseOf d = s.phaseOf d := by
    intro d hd
    rw [phaseOf, phaseOf, hother d hd]
  constructor
  case nodup =>
    exact hn
  case subset =>
    intro x hx
    rcases hin x hx with rfl | hx
    · exact hc
    · exact h.subset x hx
  case kinds =>
    intro d hd
    by_cases hdc : d = c
    · subst hdc
      obtain ⟨timeout, p', hp⟩ := h.kinds d hd
      obtain ⟨rfl, -⟩ : k = .executeCell (code d) timeout ∧ p = p' := by simpa [hk] using hp
      exact ⟨timeout, q, hself⟩
    · rw [hother d hdc]
      exact h.kinds d hd
  case placed =>
    intro x hx
    by_cases hxc : x.1 = c
    · obtain rfl : x = (c, q) := List.inj_on_of_nodup_map hn hx hq hxc
      exact phaseOf_eq hself
    · have hold : x ∈ places := (hin x hx).resolve_left fun he => hxc (by rw [he])
      rw [hphase x.1 hxc]
      exact h.placed x hold
  case fresh =>
    intro d hd hp
    have hne : d ≠ c := by
      rintro rfl
      exact hp (List.mem_map_of_mem hq)
    rw [hphase d hne]
    apply h.fresh d hd
    intro hd'
    obtain ⟨x, hx, rfl⟩ := List.mem_map.mp hd'
    exact hp (hout x hx)
  case rest =>
    intro d hd k' p' hp
    have hne : d ≠ c := by
      rintro rfl
      exact hd hc
    rw [hother d hne] at hp
    exact h.rest d hd k' p' hp

lemma Placed.call (h : Placed calls code places s) (hk : s.ops c = some ⟨k, p⟩)
    (hp : p.ended = false ∨ p.stray = true) :
    c ∈ calls ∧ (∃ timeout, k = .executeCell (code c) timeout) ∧
      ((c, p) ∈ places ∨ c ∉ places.map Prod.fst ∧ p = .scheduled) := by
  have hc : c ∈ calls := by
    by_contra hc
    obtain ⟨he, hs⟩ := h.rest c hc k p hk
    simp [he, hs] at hp
  obtain ⟨timeout, p', hp'⟩ := h.kinds c hc
  obtain ⟨rfl, -⟩ : k = .executeCell (code c) timeout ∧ p = p' := by simpa [hk] using hp'
  refine ⟨hc, ⟨timeout, rfl⟩, ?_⟩
  by_cases hm : c ∈ places.map Prod.fst
  · obtain ⟨⟨d, q⟩, hx, rfl⟩ := List.mem_map.mp hm
    have hq := h.placed (d, q) hx
    rw [phaseOf_eq hk] at hq
    obtain rfl : p = q := Option.some_inj.mp hq
    exact Or.inl hx
  · have hq := h.fresh c hc hm
    rw [phaseOf_eq hk] at hq
    exact Or.inr ⟨hm, Option.some_inj.mp hq⟩

section Holding

variable {g g' : ℕ} {space next : ν} {reqs ran : List Command} {ress : List Message}
  {holder : List (OpId × Phase)}

lemma Holding.talks (h : Holding I g code space holder reqs ress ran next) (hx : (c, p) ∈ holder) :
    p.talks = true ∧ holder = [(c, p)] := by
  cases h with
  | free => cases hx
  | unsent d =>
    obtain ⟨rfl, rfl⟩ : c = d ∧ p = .sending g := by simpa using hx
    exact ⟨rfl, rfl⟩
  | queued d hp =>
    obtain ⟨rfl, rfl⟩ : c = d ∧ p = _ := by simpa using hx
    rcases hp with rfl | rfl <;> exact ⟨rfl, rfl⟩
  | answered d hp hm =>
    obtain ⟨rfl, rfl⟩ : c = d ∧ p = _ := by simpa using hx
    rcases hp with rfl | rfl | rfl | rfl <;> exact ⟨rfl, rfl⟩

lemma Holding.sending (h : Holding I g code space [(c, .sending g')] reqs ress ran next) :
    g' = g ∧ reqs = [] ∧ ress = [] ∧ ran = [] ∧ next = space := by
  cases h with
  | unsent => exact ⟨rfl, rfl, rfl, rfl, rfl⟩
  | queued c hp => rcases hp with hp | hp <;> cases hp
  | answered c hp hm => rcases hp with hp | hp | hp | hp <;> cases hp

lemma Holding.polling (h : Holding I g code space [(c, .polling)] reqs ress ran next) :
    Holding I g code space [(c, .probing g)] reqs ress ran next := by
  cases h with
  | queued c hp => exact .queued c (Or.inr rfl)
  | answered c hp hm => exact .answered c (Or.inr (Or.inl rfl)) hm

lemma Holding.probing (h : Holding I g code space [(c, .probing g')] reqs ress ran next) :
    g' = g ∧ (ress = [] → Holding I g code space [(c, .polling)] reqs ress ran next) ∧
      (ress ≠ [] → Holding I g code space [(c, .ready)] reqs ress ran next) := by
  cases h with
  | queued c hp =>
    obtain rfl : g' = g := by simpa using hp
    exact ⟨rfl, fun _ => .queued c (Or.inl rfl), fun hn => absurd rfl hn⟩
  | answered c hp hm =>
    obtain rfl : g' = g := by simpa using hp
    refine ⟨rfl, fun hn => ?_, fun _ => .answered c (Or.inr (Or.inr (Or.inl rfl))) hm⟩
    cases hn

lemma Holding.ready (h : Holding I g code space [(c, .ready)] reqs ress ran next) :
    Holding I g code space [(c, .receiving g)] reqs ress ran next := by
  cases h with
  | queued c hp => rcases hp with hp | hp <;> cases hp
  | answered c hp hm => exact .answered c (Or.inr (Or.inr (Or.inr rfl))) hm

lemma Holding.receiving (h : Holding I g code space [(c, .receiving g')] reqs ress ran next) :
    g' = g ∧ reqs = [] ∧ ran = [.execute c (code c)] ∧
      ∃ m, ress = [m] ∧ I.cell (code c) space = some (next, m.outcome) := by
  cases h with
  | queued c hp => rcases hp with hp | hp <;> cases hp
  | answered c hp hm =>
    obtain rfl : g' = g := by simpa using hp
    exact ⟨rfl, rfl, rfl, _, rfl, hm⟩

lemma Holding.requests {cmd : Command} {rest : List Command}
    (h : Holding I g code space holder (cmd :: rest) ress ran next) :
    ∃ c p, holder = [(c, p)] ∧ cmd = .execute c (code c) ∧ rest = [] ∧ ress = [] ∧ ran = [] ∧
      next = space ∧ (p = .polling ∨ p = .probing g) := by
  cases h with
  | queued c hp => exact ⟨c, _, rfl, rfl, rfl, rfl, rfl, rfl, hp⟩

lemma Holding.holder_cases (h : Holding I g code space holder reqs ress ran next) :
    holder = [] ∨ ∃ c p, holder = [(c, p)] ∧ p.talks = true := by
  cases holder with
  | nil => exact Or.inl rfl
  | cons x rest =>
    obtain ⟨hp, hx⟩ := h.talks (c := x.1) (p := x.2) (List.mem_cons_self ..)
    exact Or.inr ⟨x.1, x.2, hx, hp⟩

lemma Holding.ran_cases (h : Holding I g code space holder reqs ress ran next) :
    ran = [] ∧ next = space ∨ ∃ (c : OpId) (p : Phase) (m : Message), holder = [(c, p)] ∧
      ran = [.execute c (code c)] ∧ I.cell (code c) space = some (next, m.outcome) := by
  cases h with
  | answered c hp hm => exact Or.inr ⟨c, _, _, rfl, rfl, hm⟩
  | _ => exact Or.inl ⟨rfl, rfl⟩

lemma Holding.held_cases (h : Holding I g code space [(c, p)] reqs ress ran next) :
    p = .sending g ∧ reqs = [] ∨
      reqs = [.execute c (code c)] ∧ (p = .polling ∨ p = .probing g) ∨
      (∃ m, ress = [m]) ∧ (p = .polling ∨ p = .probing g ∨ p = .ready ∨ p = .receiving g) := by
  cases h with
  | unsent => exact Or.inl ⟨rfl, rfl⟩
  | queued c hp => exact Or.inr (Or.inl ⟨rfl, hp⟩)
  | answered c hp hm => exact Or.inr (Or.inr ⟨⟨_, rfl⟩, hp⟩)

lemma Holding.free_cases (h : Holding I g code space [] reqs ress ran next) :
    reqs = [] ∧ ress = [] ∧ ran = [] ∧ next = space := by
  cases h with
  | free => exact ⟨rfl, rfl, rfl, rfl⟩

end Holding

end ExecutionSession

end NotebookExecution.Execution
