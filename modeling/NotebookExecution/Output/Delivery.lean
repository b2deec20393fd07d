import NotebookExecution.Output.Publisher

/-! What the publisher puts into the queue of a subscriber, whatever the interleaving. -/

namespace NotebookExecution.Output.OutputPublisher

open Library.Runs

variable {Event : Type} {execId : Event → String} {s t : OutputPublisher Event} {q q' : ℕ}
  {x x' : Subscription Event} {a : Action Event} {trace : List (Action Event)} {event : Event}
  {executionId : String}

structure Window (Event : Type) where
  registered : Bool
  events : List Event

def Window.next (execId : Event → String) (q : ℕ) (executionId : String) (w : Window Event) :
    Action Event → Window Event
  | .publish event =>
    if w.registered = true ∧ execId event = executionId then { w with events := w.events ++ [event] } else w
  | .task q' .register => if q' = q then { w with registered := true } else w
  | .task q' .unregister => if q' = q then { w with registered := false } else w
  | _ => w

def window (execId : Event → String) (q : ℕ) (executionId : String) (trace : List (Action Event)) :
    Window Event :=
  trace.foldl (Window.next execId q executionId) ⟨false, []⟩

lemma window_concat : window execId q executionId (trace ++ [a]) =
    (window execId q executionId trace).next execId q executionId a := by
  rw [window, List.foldl_append]
  rfl

def inFlight (execId : Event → String) (s : OutputPublisher Event) (q : ℕ) : List Event :=
  s.lock.elim [] fun p => if q ∈ (s.queuesOf (execId p.event)).drop p.passed then [p.event] else []

structure Delivered (execId : Event → String) (trace : List (Action Event)) (s : OutputPublisher Event) :
    Prop where
  put : ∀ q x, s.subscriptions q = some x →
    x.put ++ s.inFlight execId q = (window execId q x.executionId trace).events
  handed : ∀ q x, s.subscriptions q = some x → x.handed <+: x.put
  cleared : ∀ executionId, (∀ q x, s.subscriptions q = some x → x.executionId = executionId →
    (window execId q executionId trace).registered = false) → s.subscribers executionId = none

inductive Does (execId : Event → String) (s : OutputPublisher Event) :
    Action Event → OutputPublisher Event → Prop
  | publish (event : Event) (hl : s.lock = none) :
      Does execId s (.publish event) { s with lock := some ⟨event, 0⟩ }
  | put {p : Publishing Event} {q : ℕ} {x : Subscription Event} (hl : s.lock = some p)
      (hq : (s.queuesOf (execId p.event))[p.passed]? = some q) (hx : s.subscriptions q = some x) :
      Does execId s .put ({ s with lock := some { p with passed := p.passed + 1 } }.set q
        { x with queue := x.queue ++ [p.event], put := x.put ++ [p.event] })
  | release {p : Publishing Event} (hl : s.lock = some p)
      (hp : (s.queuesOf (execId p.event)).length ≤ p.passed) : Does execId s .release { s with lock := none }
  | subscribe {q : ℕ} (executionId : String) (hq : s.subscriptions q = none) :
      Does execId s (.subscribe q executionId) (s.set q ⟨executionId, .arriving, [], [], []⟩)
  | register {q : ℕ} {x : Subscription Event} (hx : s.subscriptions q = some x) (hp : x.phase = .arriving)
      (hl : s.lock = none) :
      Does execId s (.task q .register) ((s.register x.executionId q).set q { x with phase := .getting })
  | get {q : ℕ} {x : Subscription Event} {event : Event} {rest : List Event}
      (hx : s.subscriptions q = some x) (hp : x.phase = .getting) (hq : x.queue = event :: rest) :
      Does execId s (.task q .get)
        (s.set q { x with phase := .yielded, queue := rest, handed := x.handed ++ [event] })
  | turn {q : ℕ} {x : Subscription Event} {move : Move} {p : Phase} (hx : s.subscriptions q = some x)
      (hm : move ≠ .register ∧ move ≠ .unregister) (hp : p.registered = x.phase.registered) :
      Does execId s (.task q move) (s.set q { x with phase := p })
  | unregister {q : ℕ} {x : Subscription Event} (hx : s.subscriptions q = some x) (hp : x.phase = .leaving)
      (hl : s.lock = none) :
      Does execId s (.task q .unregister) ((s.unregister x.executionId q).set q { x with phase := .removed })

lemma advance_does {move : Move} (hx : s.subscriptions q = some x) (h : s.advance q x move = some t) :
    Does execId s (.task q move) t := by
  cases move <;> cases hp : x.phase <;>
    simp only [advance, hp, Option.ite_none_right_eq_some, Option.some.injEq, reduceCtorEq] at h
  case register.arriving =>
    obtain ⟨hl, rfl⟩ := h
    exact .register hx hp (Option.isNone_iff_eq_none.mp hl)
  case get.getting =>
    rw [takeNext] at h
    cases hq : x.queue with
    | nil => simp [hq] at h
    | cons event rest =>
      simp only [hq, Option.some.injEq] at h
      cases h
      exact .get hx hp hq
  case unregister.leaving =>
    obtain ⟨hl, rfl⟩ := h
    exact .unregister hx hp (Option.isNone_iff_eq_none.mp hl)
  all_goals
    cases h
    exact .turn hx (by simp) (by rw [hp]; rfl)

lemma step_does (h : step execId s a = some t) : Does execId s a t := by
  cases a with
  | publish event =>
    obtain ⟨hl, h⟩ := Option.ite_none_right_eq_some.mp h
    cases h
    exact .publish event (Option.isNone_iff_eq_none.mp hl)
  | put =>
    obtain ⟨p, hl, h⟩ := Option.bind_eq_some_iff.mp h
    obtain ⟨q, hq, h⟩ := Option.bind_eq_some_iff.mp h
    obtain ⟨x, hx, h⟩ := Option.bind_eq_some_iff.mp h
    cases h
    exact .put hl hq hx
  | release =>
    obtain ⟨p, hl, h⟩ := Option.bind_eq_some_iff.mp h
    obtain ⟨hp, h⟩ := Option.ite_none_right_eq_some.mp h
    cases h
    exact .release hl hp
  | subscribe q executionId =>
    obtain ⟨hq, h⟩ := Option.ite_none_right_eq_some.mp h
    cases h
    exact .subscribe executionId (Option.isNone_iff_eq_none.mp hq)
  | task q move =>
    obtain ⟨x, hx, h⟩ := Option.bind_eq_some_iff.mp h
    exact advance_does hx h

/-! ## The invariant -/

structure Faithful (execId : Event → String) (trace : List (Action Event)) (s : OutputPublisher Event) :
    Prop where
  listed : ∀ executionId q, q ∈ s.queuesOf executionId ↔
    ∃ x, s.subscriptions q = some x ∧ x.executionId = executionId ∧ x.phase.registered = true
  nodup : ∀ executionId, (s.queuesOf executionId).Nodup
  nonempty : ∀ executionId, s.subscribers executionId ≠ some []
  fifo : ∀ q x, s.subscriptions q = some x → x.put = x.handed ++ x.queue
  given : ∀ q x, s.subscriptions q = some x →
    window execId q x.executionId trace = ⟨x.phase.registered, x.put ++ s.inFlight execId q⟩
  unborn : ∀ q executionId, s.subscriptions q = none → window execId q executionId trace = ⟨false, []⟩

lemma inFlight_idle (h : s.lock = none) (q : ℕ) : s.inFlight execId q = [] := by
  rw [inFlight, h]
  rfl

lemma inFlight_absent (h : ∀ executionId, q ∉ s.queuesOf executionId) : s.inFlight execId q = [] := by
  rw [inFlight]
  cases s.lock with
  | none => rfl
  | some p => exact if_neg fun hm => h _ (List.mem_of_mem_drop hm)

namespace Faithful

lemma listed_of (h : Faithful execId trace s) (hx : s.subscriptions q = some x) (executionId : String) :
    q ∈ s.queuesOf executionId ↔ x.executionId = executionId ∧ x.phase.registered = true := by
  rw [h.listed]
  constructor
  · rintro ⟨y, hy, hr⟩
    rw [hx] at hy
    cases hy
    exact hr
  · exact fun hr => ⟨x, hx, hr⟩

lemma absent (h : Faithful execId trace s) (hq : s.subscriptions q = none) (executionId : String) :
    q ∉ s.queuesOf executionId := by
  intro hm
  obtain ⟨x, hx, -⟩ := (h.listed executionId q).mp hm
  rw [hq] at hx
  cases hx

lemma change (h : Faithful execId trace s)
    (ht : t.subscriptions = Function.update s.subscriptions q (some x))
    (hn : ∀ executionId, (t.queuesOf executionId).Nodup) (hne : ∀ executionId, t.subscribers executionId ≠ some [])
    (hq : ∀ executionId, q ∈ t.queuesOf executionId ↔ x.executionId = executionId ∧ x.phase.registered = true)
    (hf : x.put = x.handed ++ x.queue)
    (hg : window execId q x.executionId (trace ++ [a]) = ⟨x.phase.registered, x.put ++ t.inFlight execId q⟩)
    (ho : ∀ executionId q', q' ≠ q → (q' ∈ t.queuesOf executionId ↔ q' ∈ s.queuesOf executionId))
    (hi : ∀ q', q' ≠ q → t.inFlight execId q' = s.inFlight execId q')
    (hw : ∀ q' executionId, q' ≠ q → ∀ w : Window Event, w.next execId q' executionId a = w) :
    Faithful execId (trace ++ [a]) t where
  listed executionId q' := by
    rw [ht]
    by_cases he : q' = q
    · rw [he, Function.update_self, hq]
      simp
    · rw [Function.update_of_ne he, ho executionId q' he]
      exact h.listed executionId q'
  nodup := hn
  nonempty := hne
  fifo q' y hy := by
    rw [ht] at hy
    by_cases he : q' = q
    · rw [he, Function.update_self] at hy
      cases hy
      exact hf
    · rw [Function.update_of_ne he] at hy
      exact h.fifo q' y hy
  given q' y hy := by
    rw [ht] at hy
    by_cases he : q' = q
    · rw [he, Function.update_self] at hy
      cases hy
      rw [he]
      exact hg
    · rw [Function.update_of_ne he] at hy
      rw [window_concat, hw q' _ he, hi q' he]
      exact h.given q' y hy
  unborn q' executionId hy := by
    rw [ht] at hy
    by_cases he : q' = q
    · rw [he, Function.update_self] at hy
      cases hy
    · rw [Function.update_of_ne he] at hy
      rw [window_concat, hw q' _ he]
      exact h.unborn q' executionId hy

lemma turn (h : Faithful execId trace s) (hx : s.subscriptions q = some x)
    (he : x'.executionId = x.executionId) (hr : x'.phase.registered = x.phase.registered)
    (hp : x'.put = x.put) (hf : x'.put = x'.handed ++ x'.queue)
    (ha : ∀ q executionId (w : Window Event), w.next execId q executionId a = w) :
    Faithful execId (trace ++ [a]) (s.set q x') := by
  refine h.change rfl h.nodup h.nonempty (fun executionId => ?_) hf ?_ (fun _ _ _ => .rfl) (fun _ _ => rfl)
    fun q' executionId _ w => ha q' executionId w
  · rw [he, hr]
    exact h.listed_of hx executionId
  · rw [window_concat, ha, he, hr, hp]
    exact h.given q x hx

lemma publish (h : Faithful execId trace s) (hl : s.lock = none) (event : Event) :
    Faithful execId (trace ++ [.publish event]) { s with lock := some ⟨event, 0⟩ } where
  listed := h.listed
  nodup := h.nodup
  nonempty := h.nonempty
  fifo := h.fifo
  given q x hx := by
    have hw := h.given q x hx
    rw [inFlight_idle hl, List.append_nil] at hw
    rw [window_concat, hw]
    have hm : q ∈ s.queuesOf (execId event) ↔ x.phase.registered = true ∧ execId event = x.executionId := by
      rw [h.listed_of hx, and_comm, @eq_comm _ x.executionId]
    change Window.next _ _ _ _ _ =
      (⟨_, x.put ++ if q ∈ (s.queuesOf (execId event)).drop 0 then [event] else []⟩ : Window Event)
    rw [List.drop_zero, Window.next]
    by_cases hc : x.phase.registered = true ∧ execId event = x.executionId
    · rw [if_pos hc, if_pos (hm.mpr hc)]
    · rw [if_neg hc, if_neg fun hq => hc (hm.mp hq), List.append_nil]
  unborn q executionId hq := by
    rw [window_concat, h.unborn q executionId hq]
    rfl

lemma put {p : Publishing Event} (h : Faithful execId trace s) (hl : s.lock = some p)
    (hq : (s.queuesOf (execId p.event))[p.passed]? = some q) (hx : s.subscriptions q = some x) :
    Faithful execId (trace ++ [.put]) ({ s with lock := some { p with passed := p.passed + 1 } }.set q
      { x with queue := x.queue ++ [p.event], put := x.put ++ [p.event] }) := by
  have hd : (s.queuesOf (execId p.event)).drop p.passed =
      q :: (s.queuesOf (execId p.event)).drop (p.passed + 1) := by
    obtain ⟨hlt, hget⟩ := List.getElem?_eq_some_iff.mp hq
    rw [List.drop_eq_getElem_cons hlt, hget]
  have hnot : q ∉ (s.queuesOf (execId p.event)).drop (p.passed + 1) := by
    have hn := (h.nodup (execId p.event)).sublist (List.drop_sublist p.passed _)
    rw [hd, List.nodup_cons] at hn
    exact hn.1
  have hbefore : ∀ q', s.inFlight execId q' = if q' = q ∨
      q' ∈ (s.queuesOf (execId p.event)).drop (p.passed + 1) then [p.event] else [] := by
    intro q'
    rw [inFlight, hl, Option.elim_some, hd]
    simp only [List.mem_cons]
  have hg := h.given q x hx
  rw [hbefore, if_pos (Or.inl rfl)] at hg
  refine h.change rfl h.nodup h.nonempty (fun executionId => h.listed_of hx executionId) ?_ ?_
    (fun _ _ _ => .rfl) (fun q' hne => ?_) fun _ _ _ _ => rfl
  · change x.put ++ [p.event] = x.handed ++ (x.queue ++ [p.event])
    rw [h.fifo q x hx, List.append_assoc]
  · rw [window_concat]
    change window execId q x.executionId trace = (⟨_, (x.put ++ [p.event]) ++
      if q ∈ (s.queuesOf (execId p.event)).drop (p.passed + 1) then [p.event] else []⟩ : Window Event)
    rw [hg, if_neg hnot, List.append_nil]
  · rw [hbefore]
    change (if q' ∈ (s.queuesOf (execId p.event)).drop (p.passed + 1) then [p.event] else []) = _
    simp only [hne, false_or]

lemma release {p : Publishing Event} (h : Faithful execId trace s) (hl : s.lock = some p)
    (hp : (s.queuesOf (execId p.event)).length ≤ p.passed) :
    Faithful execId (trace ++ [.release]) { s with lock := none } where
  listed := h.listed
  nodup := h.nodup
  nonempty := h.nonempty
  fifo := h.fifo
  given q x hx := by
    have hw := h.given q x hx
    have hf : s.inFlight execId q = [] := by
      rw [inFlight, hl, Option.elim_some, List.drop_eq_nil_of_le hp]
      exact if_neg List.not_mem_nil
    rw [window_concat]
    rw [hf] at hw
    exact hw
  unborn q executionId hq := by
    rw [window_concat]
    exact h.unborn q executionId hq

lemma subscribe (h : Faithful execId trace s) (hq : s.subscriptions q = none) (executionId : String) :
    Faithful execId (trace ++ [.subscribe q executionId]) (s.set q ⟨executionId, .arriving, [], [], []⟩) := by
  refine h.change rfl h.nodup h.nonempty (fun executionId' => ?_) rfl ?_ (fun _ _ _ => .rfl)
    (fun _ _ => rfl) fun _ _ _ _ => rfl
  · exact iff_of_false (h.absent hq executionId') fun hr => Bool.false_ne_true hr.2
  · have hf : s.inFlight execId q = [] := inFlight_absent (h.absent hq)
    rw [window_concat]
    change window execId q executionId trace = (⟨false, [] ++ s.inFlight execId q⟩ : Window Event)
    rw [hf]
    exact h.unborn q executionId hq

lemma queuesOf_register (executionId executionId' : String) :
    (s.register executionId q).queuesOf executionId' =
      if executionId' = executionId then s.queuesOf executionId ++ [q] else s.queuesOf executionId' := by
  change (Function.update s.subscribers executionId _ executionId').getD [] = _
  rw [Function.update_apply]
  split <;> rfl

lemma register (h : Faithful execId trace s) (hx : s.subscriptions q = some x) (hp : x.phase = .arriving)
    (hl : s.lock = none) : Faithful execId (trace ++ [.task q .register])
      ((s.register x.executionId q).set q { x with phase := .getting }) := by
  have habsent : ∀ executionId, q ∉ s.queuesOf executionId := by
    intro executionId hm
    have hr := ((h.listed_of hx executionId).mp hm).2
    rw [hp] at hr
    cases hr
  have hidle : ∀ q', inFlight execId ((s.register x.executionId q).set q { x with phase := .getting }) q' = [] :=
    inFlight_idle hl
  refine h.change rfl (fun executionId => ?_) (fun executionId => ?_) (fun executionId => ?_) (h.fifo q x hx)
    ?_ (fun executionId q' hne => ?_) (fun q' _ => ?_) fun q' executionId hne w => ?_
  · change ((s.register x.executionId q).queuesOf executionId).Nodup
    rw [queuesOf_register]
    split
    · exact List.nodup_append'.mpr ⟨h.nodup _, List.nodup_singleton q,
        List.disjoint_singleton.mpr (habsent _)⟩
    · exact h.nodup _
  · change Function.update s.subscribers x.executionId _ executionId ≠ some []
    rw [Function.update_apply]
    split
    · simp
    · exact h.nonempty executionId
  · change q ∈ (s.register x.executionId q).queuesOf executionId ↔ x.executionId = executionId ∧ true = true
    rw [queuesOf_register]
    split
    case isTrue he => simp [he]
    case isFalse he => simp [habsent, Ne.symm he]
  · rw [window_concat, h.given q x hx, inFlight_idle hl, hidle]
    exact if_pos rfl
  · change q' ∈ (s.register x.executionId q).queuesOf executionId ↔ _
    rw [queuesOf_register]
    split
    case isTrue he => simp [he, hne]
    case isFalse he => exact .rfl
  · rw [inFlight_idle hl, hidle]
  · exact if_neg (Ne.symm hne)

lemma queuesOf_unregister (executionId executionId' : String) :
    (s.unregister executionId q).queuesOf executionId' =
      if executionId' = executionId then (s.queuesOf executionId).erase q else s.queuesOf executionId' := by
  rw [OutputPublisher.unregister, queuesOf, queuesOf, queuesOf]
  cases hs : s.subscribers executionId with
  | none =>
    dsimp only
    split
    case isTrue he => rw [he, hs]; rfl
    case isFalse he => rfl
  | some queues =>
    change (Function.update s.subscribers executionId _ executionId').getD [] = _
    rw [Function.update_apply]
    split
    case isTrue he =>
      rw [Option.getD_some]
      split
      case isTrue hr => rw [hr]; rfl
      case isFalse hr => rfl
    case isFalse he => rfl

lemma unregister_nonempty (h : ∀ executionId, s.subscribers executionId ≠ some [])
    (executionId : String) : (s.unregister x.executionId q).subscribers executionId ≠ some [] := by
  rw [OutputPublisher.unregister]
  cases hs : s.subscribers x.executionId with
  | none => exact h executionId
  | some queues =>
    change Function.update s.subscribers x.executionId _ executionId ≠ some []
    rw [Function.update_apply]
    split
    · split
      case isTrue hr => simp
      case isFalse hr => simpa using hr
    · exact h executionId

lemma unregister (h : Faithful execId trace s) (hx : s.subscriptions q = some x) (hp : x.phase = .leaving)
    (hl : s.lock = none) : Faithful execId (trace ++ [.task q .unregister])
      ((s.unregister x.executionId q).set q { x with phase := .removed }) := by
  have hmem : q ∈ s.queuesOf x.executionId := (h.listed_of hx x.executionId).mpr ⟨rfl, by rw [hp]; rfl⟩
  have hlock : (s.unregister x.executionId q).lock = none := by
    rw [OutputPublisher.unregister]
    split
    · exact hl
    · exact hl
  have hidle : ∀ q', inFlight execId ((s.unregister x.executionId q).set q { x with phase := .removed }) q' = [] :=
    inFlight_idle hlock
  have hsub : (s.unregister x.executionId q).subscriptions = s.subscriptions := by
    rw [OutputPublisher.unregister]
    split <;> rfl
  refine h.change (congrArg (fun f => Function.update f q _) hsub) (fun executionId => ?_)
    (fun executionId => ?_) (fun executionId => ?_) (h.fifo q x hx) ?_ (fun executionId q' hne => ?_)
    (fun q' _ => ?_) fun q' executionId hne w => ?_
  · change ((s.unregister x.executionId q).queuesOf executionId).Nodup
    rw [queuesOf_unregister]
    split
    · exact (h.nodup _).erase q
    · exact h.nodup _
  · exact unregister_nonempty h.nonempty executionId
  · change q ∈ (s.unregister x.executionId q).queuesOf executionId ↔ x.executionId = executionId ∧ false = true
    rw [queuesOf_unregister]
    split
    case isTrue he => simp [(h.nodup x.executionId).mem_erase_iff]
    case isFalse he => simp [h.listed_of hx, Ne.symm he]
  · rw [window_concat, h.given q x hx, inFlight_idle hl, hidle]
    exact if_pos rfl
  · change q' ∈ (s.unregister x.executionId q).queuesOf executionId ↔ _
    rw [queuesOf_unregister]
    split
    case isTrue he => rw [he, List.mem_erase_of_ne hne]
    case isFalse he => exact .rfl
  · rw [inFlight_idle hl, hidle]
  · exact if_neg (Ne.symm hne)

lemma step (h : Faithful execId trace s) (hs : OutputPublisher.step execId s a = some t) :
    Faithful execId (trace ++ [a]) t := by
  cases step_does hs with
  | publish event hl => exact h.publish hl event
  | put hl hq hx => exact h.put hl hq hx
  | release hl hp => exact h.release hl hp
  | subscribe executionId hq => exact h.subscribe hq executionId
  | register hx hp hl => exact h.register hx hp hl
  | @get q x event rest hx hp hq =>
    refine h.turn hx rfl (by rw [hp]; rfl) rfl ?_ fun _ _ _ => rfl
    rw [h.fifo q x hx, hq, List.append_assoc]
    rfl
  | @turn q x move p hx hm hp =>
    refine h.turn hx rfl hp rfl (h.fifo q x hx) fun _ _ _ => ?_
    cases move with
    | register => exact absurd rfl hm.1
    | unregister => exact absurd rfl hm.2
    | _ => rfl
  | unregister hx hp hl => exact h.unregister hx hp hl

lemma init : Faithful execId [] (OutputPublisher.init : OutputPublisher Event) where
  listed executionId q := iff_of_false List.not_mem_nil fun ⟨x, hx, _⟩ => by cases hx
  nodup _ := .nil
  nonempty _ h := by cases h
  fifo _ _ h := by cases h
  given _ _ h := by cases h
  unborn _ _ _ := rfl

lemma delivered (h : Faithful execId trace s) : Delivered execId trace s where
  put q x hx := by rw [h.given q x hx]
  handed q x hx := by
    rw [h.fifo q x hx]
    exact List.prefix_append _ _
  cleared executionId hno := by
    cases hs : s.subscribers executionId with
    | none => rfl
    | some queues =>
      cases queues with
      | nil => exact absurd hs (h.nonempty executionId)
      | cons q rest =>
        have hm : q ∈ s.queuesOf executionId := by
          rw [queuesOf, hs]
          exact List.mem_cons_self
        obtain ⟨x, hx, he, hr⟩ := (h.listed executionId q).mp hm
        have hw := hno q x hx he
        rw [← he, h.given q x hx, hr] at hw
        cases hw

end Faithful

theorem published_events_delivered (execId : Event → String) (trace : List (Action Event))
    {s : OutputPublisher Event} (h : exec (step execId) init trace = some s) : Delivered execId trace s :=
  (exec_history (fun _ _ _ _ hf hs => hf.step hs) Faithful.init h).delivered

def streamed : List OutputEventSchema :=
  (OutputManager.createOutputEvents 100000
    { executionId := "exec-stream-123", sessionId := "session", stdout := "one", stderr := "two" }).1

def streaming : List (Action OutputEventSchema) :=
  [.subscribe 0 "exec-stream-123", .task 0 .register] ++
    streamed.flatMap (fun event => [.publish event, .put, .release, .task 0 .get, .task 0 .resume]) ++
    [.task 0 .terminate, .task 0 .unregister]

theorem streaming_delivered : ∃ s, exec (step OutputEventSchema.executionId) init streaming = some s ∧
    Delivered OutputEventSchema.executionId streaming s := by
  have h : (exec (step OutputEventSchema.executionId) init streaming).isSome = true := by decide +kernel
  obtain ⟨s, hs⟩ := Option.isSome_iff_exists.mp h
  exact ⟨s, hs, published_events_delivered OutputEventSchema.executionId streaming hs⟩

end NotebookExecution.Output.OutputPublisher
