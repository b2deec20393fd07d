import NotebookExecution.Output.Delivery
import NotebookExecution.Output.History

/-! Streaming and storing: the calls of `process_and_persist_events` and the subscribers of their
executions, each running from one `await` to the next. -/

namespace NotebookExecution.Output

open Library.Runs Library.Sorting Library.Transaction Library.Table Store

/-- An event with the number of its call, which the publisher does not look at. -/
structure Sent where
  call : ℕ
  event : OutputEventSchema

inductive CallStage
  | streaming | stored | refused | abandoned
  deriving DecidableEq

structure PersistCall where
  events : List (Env × OutputEventSchema)
  published : ℕ
  stage : CallStage

def PersistCall.sent (k : ℕ) (c : PersistCall) (executionId : String) : List Sent :=
  (((c.events.map Prod.snd).take c.published).filter fun e => e.executionId = executionId).map (Sent.mk k)

structure Streaming where
  publisher : OutputPublisher Sent
  calls : List PersistCall
  store : Database

inductive StreamAction
  | process (events : List (Env × OutputEventSchema))
  | publish (k : ℕ)
  | persist (k : ℕ)
  | abandon (k : ℕ)
  | publisher (action : OutputPublisher.Action Sent)

namespace Streaming

def executionOf (m : Sent) : String := m.event.executionId

def begun (d : Database) : Streaming := ⟨.init, [], d⟩

def publishing (s : Streaming) (k : ℕ) : Bool := s.publisher.lock.any fun p => p.event.call = k

def current (s : Streaming) (k : ℕ) : Option PersistCall :=
  s.calls[k]?.filter fun c => c.stage = .streaming && !s.publishing k

def update (s : Streaming) (k : ℕ) (c : PersistCall) : Streaming := { s with calls := s.calls.set k c }

def publish (s : Streaming) (k : ℕ) (c : PersistCall) : Option Streaming := do
  let e ← c.events[c.published]?
  let publisher ← s.publisher.step executionOf (.publish ⟨k, e.2⟩)
  pure ({ s with publisher := publisher }.update k { c with published := c.published + 1 })

/-- The rows are flushed after the last event, and committed with the request or not at all. -/
def persist (s : Streaming) (k : ℕ) (c : PersistCall) : Option Streaming :=
  if c.published = c.events.length then
    match request s.store (OutputManager.persistEvents c.events) with
    | (.ok _, d) => some ({ s with store := d }.update k { c with stage := .stored })
    | (.error _, d) => some ({ s with store := d }.update k { c with stage := .refused })
  else none

def step (s : Streaming) : StreamAction → Option Streaming
  | .process events => some { s with calls := s.calls ++ [⟨events, 0, .streaming⟩] }
  | .publish k => (s.current k).bind (s.publish k)
  | .persist k => (s.current k).bind (s.persist k)
  | .abandon k => (s.current k).map fun c => s.update k { c with stage := .abandoned }
  -- What is published comes from a call.
  | .publisher (.publish _) => none
  | .publisher action => (s.publisher.step executionOf action).map fun p => { s with publisher := p }

variable {s t : Streaming} {a : StreamAction} {d : Database} {k q : ℕ} {c : PersistCall}
  {events : List (Env × OutputEventSchema)} {trace : List (OutputPublisher.Action Sent)}
  {executionId : String}

inductive Goes (s : Streaming) : StreamAction → Streaming → Prop
  | process (events : List (Env × OutputEventSchema)) :
      Goes s (.process events) { s with calls := s.calls ++ [⟨events, 0, .streaming⟩] }
  | publish {k : ℕ} {c : PersistCall} {e : Env × OutputEventSchema} {p : OutputPublisher Sent}
      (hc : s.calls[k]? = some c) (hs : c.stage = .streaming) (he : c.events[c.published]? = some e)
      (hp : s.publisher.step executionOf (.publish ⟨k, e.2⟩) = some p) :
      Goes s (.publish k) ({ s with publisher := p }.update k { c with published := c.published + 1 })
  | store {k : ℕ} {c : PersistCall} (hc : s.calls[k]? = some c) (hs : c.stage = .streaming)
      (hk : s.publishing k = false) (hn : c.published = c.events.length)
      (hr : Storable (rowsOf c.events) s.store) :
      Goes s (.persist k) ({ s with store := { s.store with
        executionOutputs := s.store.executionOutputs ++ rowsOf c.events } }.update k { c with stage := .stored })
  | close {k : ℕ} {c : PersistCall} {a : StreamAction} {stage : CallStage} (hc : s.calls[k]? = some c)
      (hs : c.stage = .streaming) (hk : s.publishing k = false) (hn : stage ≠ .stored) :
      Goes s a (s.update k { c with stage := stage })
  | publisher {a : OutputPublisher.Action Sent} {p : OutputPublisher Sent} (ha : ∀ m, a ≠ .publish m)
      (hp : s.publisher.step executionOf a = some p) : Goes s (.publisher a) { s with publisher := p }

lemma current_inv (h : s.current k = some c) :
    s.calls[k]? = some c ∧ c.stage = .streaming ∧ s.publishing k = false := by
  obtain ⟨hc, hp⟩ := Option.filter_eq_some_iff.mp h
  rw [Bool.and_eq_true, Bool.not_eq_true', decide_eq_true_eq] at hp
  exact ⟨hc, hp⟩

lemma persist_goes (hn : (s.store.executionOutputs.map ExecutionOutput.id).Nodup)
    (hc : s.current k = some c) (h : s.persist k c = some t) : Goes s (.persist k) t := by
  obtain ⟨hc, hs, hk⟩ := current_inv hc
  obtain ⟨hl, h⟩ := Option.ite_none_right_eq_some.mp h
  rcases bulkCreate_cases c.events (.open s.store) hn with ⟨err, u, he, hu, -⟩ | ⟨hr, he⟩
  · have hreq : request s.store (OutputManager.persistEvents c.events) = (.error err, s.store) :=
      request_raises he hu
    rw [hreq] at h
    cases h
    exact .close hc hs hk CallStage.noConfusion
  · have hreq : request s.store (OutputManager.persistEvents c.events) = (.ok (rowsOf c.events),
        { s.store with executionOutputs := s.store.executionOutputs ++ rowsOf c.events }) :=
      request_returns he
    rw [hreq] at h
    cases h
    exact .store hc hs hk hl hr

lemma step_goes (hn : (s.store.executionOutputs.map ExecutionOutput.id).Nodup) (h : s.step a = some t) :
    Goes s a t := by
  cases a with
  | process events =>
    cases h
    exact .process events
  | publish k =>
    obtain ⟨c, hc, h⟩ := Option.bind_eq_some_iff.mp h
    obtain ⟨hc, hs, -⟩ := current_inv hc
    obtain ⟨e, he, h⟩ := Option.bind_eq_some_iff.mp h
    obtain ⟨p, hp, h⟩ := Option.bind_eq_some_iff.mp h
    cases h
    exact .publish hc hs he hp
  | persist k =>
    obtain ⟨c, hc, h⟩ := Option.bind_eq_some_iff.mp h
    exact persist_goes hn hc h
  | abandon k =>
    obtain ⟨c, hc, rfl⟩ := Option.map_eq_some_iff.mp h
    obtain ⟨hc, hs, hk⟩ := current_inv hc
    exact .close hc hs hk CallStage.noConfusion
  | publisher action =>
    cases action with
    | publish m => cases h
    | _ =>
      obtain ⟨p, hp, rfl⟩ := Option.map_eq_some_iff.mp h
      exact .publisher (fun _ ha => nomatch ha) hp

lemma lookup_set {cs : List PersistCall} {j : ℕ} {c c' : PersistCall} (hc : cs[k]? = some c) :
    (cs.set k c')[j]? = if k = j then some c' else cs[j]? := by
  rw [List.getElem?_set]
  split
  case isTrue he => rw [if_pos (List.getElem?_eq_some_iff.mp hc).1]
  case isFalse he => rfl

lemma lookup_concat {cs : List PersistCall} {c : PersistCall} (hc : cs[k]? = some c)
    (new : PersistCall) : (cs ++ [new])[k]? = some c := by
  rw [List.getElem?_append_left (List.getElem?_eq_some_iff.mp hc).1, hc]

lemma lookup_concat_inv {cs : List PersistCall} {c new : PersistCall} (hc : (cs ++ [new])[k]? = some c) :
    cs[k]? = some c ∨ c = new := by
  rw [List.getElem?_append] at hc
  split at hc
  · exact .inl hc
  · exact .inr (List.mem_singleton.mp (List.mem_of_getElem? hc))

lemma events_set {cs : List PersistCall} {j : ℕ} {old new : PersistCall} (hj : cs[j]? = some old)
    (he : new.events = old.events) (hc : cs[k]? = some c) :
    ∃ c', (cs.set j new)[k]? = some c' ∧ c'.events = c.events := by
  rw [lookup_set hj]
  split
  case isTrue hjk =>
    rw [hjk, hc] at hj
    cases hj
    exact ⟨new, rfl, he⟩
  case isFalse hjk => exact ⟨c, hc, rfl⟩

lemma Goes.keeps_events (h : Goes s a t) (hc : s.calls[k]? = some c) :
    ∃ c', t.calls[k]? = some c' ∧ c'.events = c.events := by
  cases h with
  | process events => exact ⟨c, lookup_concat hc _, rfl⟩
  | publisher ha hp => exact ⟨c, hc, rfl⟩
  | publish hj hs he hp => exact events_set hj rfl hc
  | store hj hs hk hn hr => exact events_set hj rfl hc
  | close hj hs hk hn => exact events_set hj rfl hc

lemma lock_kept {p p' : OutputPublisher Sent} {b : OutputPublisher.Action Sent} (ha : ∀ m, b ≠ .publish m)
    (h : p.step executionOf b = some p') (hk : (p.lock.any fun x => x.event.call = k) = false) :
    (p'.lock.any fun x => x.event.call = k) = false := by
  cases OutputPublisher.step_does h with
  | publish event hl => exact absurd rfl (ha event)
  | put hl hq hx =>
    rw [hl] at hk
    exact hk
  | release hl hp => rfl
  | subscribe executionId hq => exact hk
  | register hx hp hl => exact hk
  | get hx hp hq => exact hk
  | turn hx hm hp => exact hk
  | @unregister q x hx hp hl =>
    have hlock : (p.unregister x.executionId q).lock = p.lock := by
      rw [OutputPublisher.unregister]
      split <;> rfl
    change ((p.unregister x.executionId q).lock.any _) = false
    rw [hlock]
    exact hk

lemma publishing_kept {j : ℕ} {e : OutputEventSchema} {p : OutputPublisher Sent}
    (h : s.publisher.step executionOf (.publish ⟨j, e⟩) = some p) (hk : k ≠ j) :
    (p.lock.any fun x => x.event.call = k) = false := by
  obtain ⟨-, h⟩ := Option.ite_none_right_eq_some.mp h
  cases h
  exact decide_eq_false (Ne.symm hk)

structure CallSound (s : Streaming) (k : ℕ) (c : PersistCall) : Prop where
  idle : c.stage ≠ .streaming → s.publishing k = false
  whole : c.stage = .stored →
    c.published = c.events.length ∧ rowsOf c.events <:+: s.store.executionOutputs

structure Sound (d : Database) (s : Streaming) : Prop where
  ids : (s.store.executionOutputs.map ExecutionOutput.id).Nodup
  call : ∀ k c, s.calls[k]? = some c → CallSound s k c
  origin : ∀ o ∈ s.store.executionOutputs, o ∈ d.executionOutputs ∨
    ∃ (k : ℕ) (c : PersistCall), s.calls[k]? = some c ∧ c.stage = .stored ∧ o ∈ rowsOf c.events

lemma Sound.begun (hd : (d.executionOutputs.map ExecutionOutput.id).Nodup) : Sound d (begun d) :=
  ⟨hd, fun _ _ hc => (nomatch hc), fun _ ho => .inl ho⟩

lemma Sound.updated {new : PersistCall} (h : Sound d s) (hc : s.calls[k]? = some c)
    (hs : c.stage = .streaming) (ht : t.calls = s.calls.set k new)
    (hids : (t.store.executionOutputs.map ExecutionOutput.id).Nodup) (hnew : CallSound t k new)
    (hold : ∀ j c', j ≠ k → CallSound s j c' → CallSound t j c')
    (ho : ∀ o ∈ t.store.executionOutputs,
      o ∈ s.store.executionOutputs ∨ new.stage = .stored ∧ o ∈ rowsOf new.events) : Sound d t where
  ids := hids
  call j c' hj := by
    rw [ht, lookup_set hc] at hj
    split at hj
    case isTrue hkj =>
      cases hj
      exact hkj ▸ hnew
    case isFalse hkj => exact hold j c' (Ne.symm hkj) (h.call j c' hj)
  origin o hm := by
    rcases ho o hm with hm | ⟨hst, hm⟩
    · refine (h.origin o hm).imp_right ?_
      rintro ⟨j, c', hj, hst, hm⟩
      refine ⟨j, c', ?_, hst, hm⟩
      rw [ht, lookup_set hc, if_neg]
      · exact hj
      · rintro rfl
        rw [hc] at hj
        cases hj
        rw [hs] at hst
        cases hst
    · refine .inr ⟨k, new, ?_, hst, hm⟩
      rw [ht, lookup_set hc, if_pos rfl]

lemma Sound.step (h : Sound d s) (hs : s.step a = some t) : Sound d t := by
  cases step_goes h.ids hs with
  | process events =>
    refine ⟨h.ids, fun k c hc => ?_, fun o ho => ?_⟩
    · rcases lookup_concat_inv hc with hc | rfl
      · exact ⟨(h.call k c hc).idle, (h.call k c hc).whole⟩
      · exact ⟨fun hst => absurd rfl hst, fun hst => by cases hst⟩
    · refine (h.origin o ho).imp_right ?_
      rintro ⟨k, c, hc, hst, hm⟩
      exact ⟨k, c, lookup_concat hc _, hst, hm⟩
  | @publish j c e p hj hst he hp =>
    refine h.updated hj hst rfl h.ids ?_ (fun k c' hk hc' => ?_) fun o ho => .inl ho
    · exact ⟨fun hne => absurd hst hne, fun hst' => by rw [hst] at hst'; cases hst'⟩
    · exact ⟨fun _ => publishing_kept hp hk, hc'.whole⟩
  | @store j c hj hst hk hn hr =>
    refine h.updated hj hst rfl hr.1 ?_ (fun k c' _ hc' => ?_) fun o ho => ?_
    · exact ⟨fun _ => hk, fun _ => ⟨hn, (List.suffix_append _ _).isInfix⟩⟩
    · refine ⟨hc'.idle, fun hst' => ?_⟩
      obtain ⟨hw, hi⟩ := hc'.whole hst'
      exact ⟨hw, hi.trans (List.prefix_append _ _).isInfix⟩
    · exact (List.mem_append.mp ho).imp_right fun hm => ⟨rfl, hm⟩
  | @close j c _ stage hj hst hk hn =>
    refine h.updated hj hst rfl h.ids ?_ (fun k c' _ hc' => ⟨hc'.idle, hc'.whole⟩) fun o ho => .inl ho
    exact ⟨fun _ => hk, fun hst' => absurd hst' hn⟩
  | @publisher b p hb hp =>
    refine ⟨h.ids, fun k c hc => ⟨fun hst => ?_, (h.call k c hc).whole⟩, h.origin⟩
    exact lock_kept hb hp ((h.call k c hc).idle hst)

lemma next_events {w : OutputPublisher.Window Sent} {b : OutputPublisher.Action Sent}
    (hb : ∀ m, b ≠ .publish m) : (w.next executionOf q executionId b).events = w.events := by
  cases b with
  | publish m => exact absurd rfl (hb m)
  | task q' move =>
    cases move with
    | register =>
      rw [OutputPublisher.Window.next]
      split <;> rfl
    | unregister =>
      rw [OutputPublisher.Window.next]
      split <;> rfl
    | _ => rfl
  | _ => rfl

structure Announced (trace : List (OutputPublisher.Action Sent)) (s : Streaming) : Prop where
  faithful : OutputPublisher.Faithful executionOf trace s.publisher
  source : ∀ q executionId, ∀ m ∈ (OutputPublisher.window executionOf q executionId trace).events,
    executionOf m = executionId ∧ ∃ c, s.calls[m.call]? = some c ∧ m.event ∈ c.events.map Prod.snd

lemma Announced.begun : Announced [] (begun d) := ⟨.init, fun _ _ _ hm => nomatch hm⟩

lemma Announced.kept (h : Announced trace s) (hg : Goes s a t) (hp : t.publisher = s.publisher) :
    Announced trace t where
  faithful := hp ▸ h.faithful
  source q executionId m hm := by
    obtain ⟨he, c, hc, hmem⟩ := h.source q executionId m hm
    obtain ⟨c', hc', he'⟩ := hg.keeps_events hc
    exact ⟨he, c', hc', he' ▸ hmem⟩

lemma window_publish (m : Sent) (q : ℕ) (executionId : String) :
    (OutputPublisher.window executionOf q executionId (trace ++ [.publish m])).events =
      (OutputPublisher.window executionOf q executionId trace).events ++
        if (OutputPublisher.window executionOf q executionId trace).registered = true ∧
          executionOf m = executionId then [m] else [] := by
  rw [OutputPublisher.window_concat, OutputPublisher.Window.next]
  split
  · rfl
  · rw [List.append_nil]

lemma window_other {b : OutputPublisher.Action Sent} (hb : ∀ m, b ≠ .publish m) :
    (OutputPublisher.window executionOf q executionId (trace ++ [b])).events =
      (OutputPublisher.window executionOf q executionId trace).events := by
  rw [OutputPublisher.window_concat, next_events hb]

lemma Announced.publish {m : Sent} (h : Announced trace s) (hg : Goes s a t)
    (hp : s.publisher.step executionOf (.publish m) = some t.publisher) (hc : s.calls[m.call]? = some c)
    (hm : m.event ∈ c.events.map Prod.snd) : Announced (trace ++ [.publish m]) t where
  faithful := h.faithful.step hp
  source q executionId m' hm' := by
    rw [window_publish] at hm'
    rcases List.mem_append.mp hm' with hm' | hm'
    · obtain ⟨he, c', hc', hmem⟩ := h.source q executionId m' hm'
      obtain ⟨c'', hc'', he'⟩ := hg.keeps_events hc'
      exact ⟨he, c'', hc'', he' ▸ hmem⟩
    · split at hm'
      case isTrue hr =>
        obtain rfl := List.mem_singleton.mp hm'
        obtain ⟨c', hc', he'⟩ := hg.keeps_events hc
        exact ⟨hr.2, c', hc', he' ▸ hm⟩
      case isFalse hr => cases hm'

lemma Announced.other {b : OutputPublisher.Action Sent} (h : Announced trace s) (hg : Goes s a t)
    (hb : ∀ m, b ≠ .publish m) (hp : s.publisher.step executionOf b = some t.publisher) :
    Announced (trace ++ [b]) t where
  faithful := h.faithful.step hp
  source q executionId m hm := by
    rw [window_other hb] at hm
    obtain ⟨he, c, hc, hmem⟩ := h.source q executionId m hm
    obtain ⟨c', hc', he'⟩ := hg.keeps_events hc
    exact ⟨he, c', hc', he' ▸ hmem⟩

lemma mem_events {e : Env × OutputEventSchema} {n : ℕ} (he : c.events[n]? = some e) :
    e.2 ∈ c.events.map Prod.snd :=
  List.mem_map_of_mem (List.mem_of_getElem? he)

lemma Announced.step (h : Announced trace s) (hg : Goes s a t) : ∃ trace, Announced trace t := by
  cases hgs : hg with
  | process events => exact ⟨trace, h.kept hg rfl⟩
  | publish hc hs he hp => exact ⟨_, h.publish (m := ⟨_, _⟩) hg hp hc (mem_events he)⟩
  | store hc hs hk hn hr => exact ⟨trace, h.kept hg rfl⟩
  | close hc hs hk hn => exact ⟨trace, h.kept hg rfl⟩
  | publisher hb hp => exact ⟨_, h.other hg hb hp⟩

structure Attended (events : List (Env × OutputEventSchema)) (k q : ℕ) (executionId : String)
    (trace : List (OutputPublisher.Action Sent)) (s : Streaming) : Prop where
  announced : Announced trace s
  listens : (OutputPublisher.window executionOf q executionId trace).registered = true
  due : ∃ c, s.calls[k]? = some c ∧ c.events = events ∧
    (OutputPublisher.window executionOf q executionId trace).events.filter (fun m => m.call = k) =
      c.sent k executionId

lemma sent_next {e : Env × OutputEventSchema} (he : c.events[c.published]? = some e) :
    PersistCall.sent k { c with published := c.published + 1 } executionId =
      c.sent k executionId ++ if executionOf ⟨k, e.2⟩ = executionId then [⟨k, e.2⟩] else [] := by
  have hget : (c.events.map Prod.snd)[c.published]? = some e.2 := by rw [List.getElem?_map, he]; rfl
  rw [PersistCall.sent, PersistCall.sent, List.take_add_one, hget, List.filter_append, List.map_append]
  congr 1
  by_cases hx : e.2.executionId = executionId
  · simp [executionOf, hx]
  · simp [executionOf, hx]

lemma Attended.began (h : Announced trace s)
    (hr : (OutputPublisher.window executionOf q executionId trace).registered = true)
    (hs : s.step (.process events) = some t) : Attended events s.calls.length q executionId trace t := by
  cases hs
  refine ⟨h.kept (.process events) rfl, hr, ⟨events, 0, .streaming⟩, ?_, rfl, ?_⟩
  · rw [List.getElem?_concat_length]
  · rw [PersistCall.sent, List.take_zero]
    refine List.filter_eq_nil_iff.mpr fun m hm => ?_
    obtain ⟨-, c, hc, -⟩ := h.source q executionId m hm
    have hlt := (List.getElem?_eq_some_iff.mp hc).1
    rw [decide_eq_true_eq]
    omega

lemma Attended.updated {j : ℕ} {old new : PersistCall} (h : Attended events k q executionId trace s)
    (hg : Goes s a t) (ht : t.publisher = s.publisher ∧ t.calls = s.calls.set j new)
    (hj : s.calls[j]? = some old) (he : new.events = old.events) (hp : new.published = old.published) :
    Attended events k q executionId trace t := by
  obtain ⟨c, hc, hev, hdue⟩ := h.due
  refine ⟨h.announced.kept hg ht.1, h.listens, ?_⟩
  rw [ht.2, lookup_set hj]
  split
  case isTrue hjk =>
    rw [hjk, hc] at hj
    cases hj
    refine ⟨new, rfl, he.trans hev, hdue.trans ?_⟩
    rw [PersistCall.sent, PersistCall.sent, he, hp]
  case isFalse hjk => exact ⟨c, hc, hev, hdue⟩

lemma Attended.published {j : ℕ} {old : PersistCall} {e : Env × OutputEventSchema}
    {p : OutputPublisher Sent} (h : Attended events k q executionId trace s)
    (hg : Goes s a ({ s with publisher := p }.update j { old with published := old.published + 1 }))
    (hj : s.calls[j]? = some old) (he : old.events[old.published]? = some e)
    (hp : s.publisher.step executionOf (.publish ⟨j, e.2⟩) = some p) :
    Attended events k q executionId (trace ++ [.publish ⟨j, e.2⟩])
      ({ s with publisher := p }.update j { old with published := old.published + 1 }) := by
  obtain ⟨c, hc, hev, hdue⟩ := h.due
  refine ⟨h.announced.publish (m := ⟨j, e.2⟩) hg hp hj (mem_events he), ?_, ?_⟩
  · rw [OutputPublisher.window_concat, OutputPublisher.Window.next]
    split
    · exact h.listens
    · exact h.listens
  · rw [window_publish, List.filter_append, hdue, update, lookup_set hj]
    simp only [h.listens, true_and]
    split
    case isTrue hjk =>
      rw [hjk, hc] at hj
      cases hj
      refine ⟨_, rfl, hev, ?_⟩
      rw [sent_next he, hjk]
      split <;> simp
    case isFalse hjk =>
      refine ⟨c, hc, hev, ?_⟩
      split <;> simp [hjk]

lemma Attended.other {b : OutputPublisher.Action Sent} {p : OutputPublisher Sent}
    (h : Attended events k q executionId trace s) (hb : ∀ m, b ≠ .publish m) (hq : b ≠ .task q .unregister)
    (hp : s.publisher.step executionOf b = some p) :
    Attended events k q executionId (trace ++ [b]) { s with publisher := p } := by
  obtain ⟨c, hc, hev, hdue⟩ := h.due
  refine ⟨h.announced.other (.publisher hb hp) hb hp, ?_, c, hc, hev, ?_⟩
  · rw [OutputPublisher.window_concat]
    cases b with
    | publish m => exact absurd rfl (hb m)
    | task q' move =>
      cases move with
      | register =>
        rw [OutputPublisher.Window.next]
        split
        · rfl
        · exact h.listens
      | unregister =>
        rw [OutputPublisher.Window.next, if_neg fun he : q' = q => hq (by rw [he])]
        exact h.listens
      | _ => exact h.listens
    | _ => exact h.listens
  · rw [window_other hb, hdue]

lemma Attended.step (h : Attended events k q executionId trace s) (hg : Goes s a t)
    (hq : a ≠ .publisher (.task q .unregister)) : ∃ trace, Attended events k q executionId trace t := by
  cases hgs : hg with
  | process events =>
    obtain ⟨c, hc, hev, hdue⟩ := h.due
    exact ⟨trace, h.announced.kept hg rfl, h.listens, c, lookup_concat hc _, hev, hdue⟩
  | publish hj hs he hp => exact ⟨_, h.published hg hj he hp⟩
  | store hj hs hk hn hr => exact ⟨trace, h.updated hg ⟨rfl, rfl⟩ hj rfl rfl⟩
  | close hj hs hk hn => exact ⟨trace, h.updated hg ⟨rfl, rfl⟩ hj rfl rfl⟩
  | publisher hb hp => exact ⟨_, h.other hb (fun hne => hq (hne ▸ rfl)) hp⟩

/-! ## Streams and history -/

def eventOf (o : ExecutionOutput) : OutputEventSchema where
  executionId := o.executionId
  sessionId := o.sessionId
  notebookId := o.notebookId
  cellId := o.cellId
  outputType := o.outputType
  content := o.content
  sequence := o.sequence
  outputMetadata := o.outputMetadata

lemma eventOf_rows (l : List (Env × OutputEventSchema)) : (rowsOf l).map eventOf = l.map Prod.snd := by
  rw [rowsOf, List.map_map]
  rfl

lemma eventOf_filter (l : List (Env × OutputEventSchema)) (executionId : String) :
    ((rowsOf l).filter fun o => o.executionId = executionId).map eventOf =
      (l.map Prod.snd).filter fun e => e.executionId = executionId := by
  have hfilter : ((rowsOf l).filter fun o => o.executionId = executionId) =
      (rowsOf l).filter ((fun e => decide (e.executionId = executionId)) ∘ eventOf) := rfl
  rw [hfilter, ← List.filter_map, eventOf_rows]

structure Attends (d : Database) (q : ℕ) (events : List (Env × OutputEventSchema))
    (before after : List StreamAction) (s₁ s : Streaming) : Prop where
  first : exec step (begun d) before = some s₁
  listens : ∃ x, s₁.publisher.subscriptions q = some x ∧ x.phase.registered = true
  rest : exec step s₁ (.process events :: after) = some s
  stays : StreamAction.publisher (.task q .unregister) ∉ after

lemma announced_run {as : List StreamAction} (hd : (d.executionOutputs.map ExecutionOutput.id).Nodup)
    (hs : exec step (begun d) as = some s) : Sound d s ∧ ∃ trace, Announced trace s := by
  refine exec_history (R := fun _ s => Sound d s ∧ ∃ trace, Announced trace s) ?_
    ⟨.begun hd, [], .begun⟩ hs
  rintro - s a t ⟨hsound, trace, hr⟩ ht
  exact ⟨hsound.step ht, hr.step (step_goes hsound.ids ht)⟩

lemma attended_run {as : List StreamAction} (h : Attended events k q executionId trace s) (hsound : Sound d s)
    (hq : StreamAction.publisher (.task q .unregister) ∉ as) (hs : exec step s as = some t) :
    Sound d t ∧ ∃ trace, Attended events k q executionId trace t := by
  refine exec_history (R := fun as t => StreamAction.publisher (.task q .unregister) ∉ as →
    Sound d t ∧ ∃ trace, Attended events k q executionId trace t) ?_ (fun _ => ⟨hsound, trace, h⟩) hs hq
  intro as s a t hr ht hn
  rw [List.mem_append, not_or, List.mem_singleton] at hn
  obtain ⟨hsound, trace, hr⟩ := hr hn.1
  exact ⟨hsound.step ht, hr.step (step_goes hsound.ids ht) (Ne.symm hn.2)⟩

lemma registered_any (q : ℕ) (executionId executionId' : String) :
    (OutputPublisher.window executionOf q executionId trace).registered =
      (OutputPublisher.window executionOf q executionId' trace).registered := by
  induction trace using List.reverseRecOn with
  | nil => rfl
  | append_singleton trace b ih =>
    rw [OutputPublisher.window_concat, OutputPublisher.window_concat]
    cases b with
    | publish m =>
      rw [OutputPublisher.Window.next, OutputPublisher.Window.next]
      split <;> split <;> exact ih
    | task q' move =>
      cases move with
      | register =>
        rw [OutputPublisher.Window.next, OutputPublisher.Window.next]
        split
        · rfl
        · exact ih
      | unregister =>
        rw [OutputPublisher.Window.next, OutputPublisher.Window.next]
        split
        · rfl
        · exact ih
      | _ => exact ih
    | _ => exact ih

variable {before after : List StreamAction} {s₁ : Streaming} {x : Subscription Sent}

lemma Attends.attended (hd : (d.executionOutputs.map ExecutionOutput.id).Nodup)
    (h : Attends d q events before after s₁ s) (executionId : String) :
    Sound d s ∧ ∃ trace, Attended events s₁.calls.length q executionId trace s := by
  obtain ⟨hsound, trace, hann⟩ := announced_run hd h.first
  obtain ⟨x, hx, hr⟩ := h.listens
  have hreg : (OutputPublisher.window executionOf q executionId trace).registered = true := by
    rw [registered_any q executionId x.executionId, hann.faithful.given q x hx]
    exact hr
  have hrest := h.rest
  rw [exec] at hrest
  obtain ⟨t, ht, hrest⟩ := Option.bind_eq_some_iff.mp hrest
  exact attended_run (.began hann hreg ht) (hsound.step ht) h.stays hrest

lemma Attends.put_of_call (hd : (d.executionOutputs.map ExecutionOutput.id).Nodup)
    (h : Attends d q events before after s₁ s) (hc : s.calls[s₁.calls.length]? = some c)
    (hs : c.stage = .stored) (hx : s.publisher.subscriptions q = some x) : c.events = events ∧
      x.put.filter (fun m => m.call = s₁.calls.length) =
        ((events.map Prod.snd).filter fun e => e.executionId = x.executionId).map
          (Sent.mk s₁.calls.length) := by
  obtain ⟨hsound, trace, hatt⟩ := h.attended hd x.executionId
  obtain ⟨c', hc', hev, hdue⟩ := hatt.due
  rw [hc] at hc'
  cases hc'
  have hcall := hsound.call _ c hc
  have hidle := hcall.idle (by rw [hs]; decide)
  have hflight : (s.publisher.inFlight executionOf q).filter (fun m => m.call = s₁.calls.length) = [] := by
    refine List.filter_eq_nil_iff.mpr fun m hm => ?_
    rw [OutputPublisher.inFlight] at hm
    rw [publishing] at hidle
    cases hl : s.publisher.lock with
    | none =>
      rw [hl] at hm
      cases hm
    | some p =>
      rw [hl, Option.elim_some] at hm
      rw [hl, Option.any_some, decide_eq_false_iff_not] at hidle
      split at hm
      · rw [List.mem_singleton.mp hm, decide_eq_true_eq]
        exact hidle
      · cases hm
  refine ⟨hev, ?_⟩
  rw [hatt.announced.faithful.given q x hx, List.filter_append, hflight, List.append_nil] at hdue
  rw [hdue, PersistCall.sent, (hcall.whole hs).1, hev, List.take_of_length_le (by simp)]

theorem stored_call_streamed (hd : (d.executionOutputs.map ExecutionOutput.id).Nodup)
    (h : Attends d q events before after s₁ s) (hc : s.calls[s₁.calls.length]? = some c)
    (hs : c.stage = .stored) (hx : s.publisher.subscriptions q = some x) :
    rowsOf events <:+: s.store.executionOutputs ∧
      ((rowsOf events).filter fun o => o.executionId = x.executionId).map eventOf =
        (x.put.filter fun m => m.call = s₁.calls.length).map Sent.event := by
  obtain ⟨hev, hput⟩ := h.put_of_call hd hc hs hx
  obtain ⟨hsound, -⟩ := h.attended hd x.executionId
  refine ⟨hev ▸ ((hsound.call _ c hc).whole hs).2, ?_⟩
  rw [hput, eventOf_filter, List.map_map]
  exact (List.map_id _).symm

lemma rows_of_only (hsound : Sound d s) (hc : s.calls[k]? = some c) (hs : c.stage = .stored)
    (hold : ∀ o ∈ d.executionOutputs, o.executionId ≠ executionId)
    (honly : ∀ j c', s.calls[j]? = some c' → j ≠ k → ∀ e ∈ c'.events, e.2.executionId ≠ executionId) :
    (s.store.executionOutputs.filter fun o => o.executionId = executionId) =
      (rowsOf c.events).filter fun o => o.executionId = executionId := by
  obtain ⟨-, l, r, hlr⟩ := (hsound.call k c hc).whole hs
  have hn := List.Nodup.of_map _ hsound.ids
  rw [← hlr, List.nodup_append', List.nodup_append'] at hn
  obtain ⟨⟨-, -, hl⟩, -, hr⟩ := hn
  have hother : ∀ o ∈ s.store.executionOutputs, o ∉ rowsOf c.events → o.executionId ≠ executionId := by
    intro o ho hno
    rcases hsound.origin o ho with hd | ⟨j, c', hj, -, hm⟩
    · exact hold o hd
    · by_cases hjk : j = k
      · rw [hjk, hc] at hj
        cases hj
        exact absurd hm hno
      · obtain ⟨e, he, rfl⟩ := List.mem_map.mp hm
        exact honly j c' hj hjk e he
  rw [← hlr] at hother ⊢
  have hleft : l.filter (fun o => o.executionId = executionId) = [] := by
    refine List.filter_eq_nil_iff.mpr fun o ho => ?_
    rw [decide_eq_true_eq]
    exact hother o (by simp [ho]) (hl ho)
  have hright : r.filter (fun o => o.executionId = executionId) = [] := by
    refine List.filter_eq_nil_iff.mpr fun o ho => ?_
    rw [decide_eq_true_eq]
    exact hother o (by simp [ho]) fun hm => hr (List.mem_append_right _ hm) ho
  rw [List.filter_append, List.filter_append, hleft, hright, List.nil_append, List.append_nil]

lemma put_of_only {trace : List (OutputPublisher.Action Sent)} (hann : Announced trace s)
    (hx : s.publisher.subscriptions q = some x)
    (honly : ∀ j c', s.calls[j]? = some c' → j ≠ k → ∀ e ∈ c'.events, e.2.executionId ≠ x.executionId) :
    x.put.filter (fun m => m.call = k) = x.put := by
  refine List.filter_eq_self.mpr fun m hm => decide_eq_true ?_
  have hwin : m ∈ (OutputPublisher.window executionOf q x.executionId trace).events := by
    rw [hann.faithful.given q x hx]
    exact List.mem_append_left _ hm
  obtain ⟨he, c', hc', hmem⟩ := hann.source q x.executionId m hwin
  obtain ⟨e, hme, hee⟩ := List.mem_map.mp hmem
  by_contra hne
  exact honly m.call c' hc' hne e hme (hee ▸ he)

def tested : OutputCall := ⟨100000, testLog "AVAILABLE" "" "ok", fun _ => ⟨1, 0⟩⟩

def listening : List StreamAction :=
  [.publisher (.subscribe 0 "conn-test-13"), .publisher (.task 0 .register)]

def handedOut : List StreamAction := [.publish 0, .publisher .put, .publisher .release, .persist 0]

lemma tested_run : ∃ s₁ s c x, Attends .empty 0 tested.events listening handedOut s₁ s ∧
    s.calls[s₁.calls.length]? = some c ∧ c.stage = .stored ∧ s.publisher.subscriptions 0 = some x ∧
      s₁.calls.length = 0 ∧ s.calls.length = 1 ∧ x.executionId = "conn-test-13" := by
  have h₁ : (exec step (begun .empty) listening).elim false (fun s₁ => s₁.calls.length = 0 &&
      (s₁.publisher.subscriptions 0).any fun x => x.phase.registered) = true := by decide +kernel
  have h₂ : ((exec step (begun .empty) listening).bind fun s₁ =>
      exec step s₁ (.process tested.events :: handedOut)).elim false (fun s => s.calls.length = 1 &&
        ((s.calls[0]?).any fun c => c.stage = .stored) &&
          (s.publisher.subscriptions 0).any fun x => x.executionId = "conn-test-13") = true := by
    decide +kernel
  cases hs₁ : exec step (begun .empty) listening with
  | none => rw [hs₁] at h₁; cases h₁
  | some s₁ =>
    rw [hs₁, Option.elim_some, Bool.and_eq_true, decide_eq_true_eq, Option.any_eq_true] at h₁
    obtain ⟨hlen, x₁, hx₁, hr⟩ := h₁
    rw [hs₁, Option.bind_some] at h₂
    cases hs : exec step s₁ (.process tested.events :: handedOut) with
    | none => rw [hs] at h₂; cases h₂
    | some s =>
      rw [hs, Option.elim_some, Bool.and_eq_true, Bool.and_eq_true, decide_eq_true_eq,
        Option.any_eq_true, Option.any_eq_true] at h₂
      obtain ⟨⟨hlen', c, hc, hst⟩, x, hx, he⟩ := h₂
      refine ⟨s₁, s, c, x, ⟨hs₁, ⟨x₁, hx₁, hr⟩, hs, ?_⟩, hlen ▸ hc, of_decide_eq_true hst, hx, hlen, hlen',
        of_decide_eq_true he⟩
      simp [handedOut]

theorem tested_streamed : ∃ (s : Streaming) (x : Subscription Sent),
    rowsOf tested.events <:+: s.store.executionOutputs ∧
      ((rowsOf tested.events).filter fun o => o.executionId = "conn-test-13").map eventOf =
        (x.put.filter fun m => m.call = 0).map Sent.event := by
  obtain ⟨s₁, s, c, x, h, hc, hs, hx, hlen, -, he⟩ := tested_run
  have hcall := stored_call_streamed (d := .empty) .nil h hc hs hx
  rw [hlen, he] at hcall
  exact ⟨s, x, hcall⟩

end Streaming

end NotebookExecution.Output
