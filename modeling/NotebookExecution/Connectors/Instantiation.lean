import NotebookExecution.Connectors.Rotation

/-! Whether the stored connectors can be instantiated. `takes` says of a call whether the columns take
what it writes. -/

namespace NotebookExecution.Connectors

open Library.Runs Library.Json Library.Text Library.Transaction Library.Table Store ConnectorRepository

variable {P : Python} {E : Encryption} {g : Generated} {d t : Platform} {k : Uuid} {e : Env}
  {name connectorType category : String} {configuration : JsonFields}
  {secretPayload : Option JsonFields} {x : Connector} {cls : ConnectorType}

def AcceptsServer (config : JsonFields) : Prop :=
  notNull (config.get "host") ∧ notNull (config.get "database") ∧
    ∃ v n, config.get "port" = some v ∧ toInt v = .ok n

def AcceptsBucket (config : JsonFields) : Prop :=
  (config.get "bucket").any truth ∧ (config.get "region").any truth

def ConnectorType.Accepts : ConnectorType → JsonFields → Prop
  | .postgresql | .mysql | .mssql | .mongodb => AcceptsServer
  | .s3 => AcceptsBucket

lemma requireFields_ok {present : Option JsonValue → Bool} {fields : List String} {config : JsonFields} :
    requireFields present fields cls config = .ok () ↔ ∀ f ∈ fields, present (config.get f) = true := by
  rw [requireFields]
  cases hf : fields.find? fun f => !present (config.get f) with
  | none =>
    rw [List.find?_eq_none] at hf
    exact iff_of_true rfl fun f hm => by simpa using hf f hm
  | some f =>
    refine iff_of_false (by simp) fun h => ?_
    have hp := List.find?_some hf
    rw [h f (List.mem_of_find?_eq_some hf)] at hp
    cases hp

lemma serverTarget_ok {b : BaseConnector} {port : ℤ} {database : String} :
    (∃ target, serverTarget P b port database = .ok target) ↔
      ∃ n, toInt (getOr b.config "port" (.int port)) = .ok n := by
  rw [serverTarget]
  cases toInt (getOr b.config "port" (.int port)) with
  | error err => exact iff_of_false (by rintro ⟨target, h⟩; cases h) (by rintro ⟨n, h⟩; cases h)
  | ok n => exact iff_of_true ⟨_, rfl⟩ ⟨n, rfl⟩

lemma acceptsServer_iff (P : Python) (cls : ConnectorType) (b : BaseConnector) (port : ℤ) (database : String) :
    ((∃ target, serverTarget P b port database = .ok target) ∧
        requireFields notNull ["host", "port", "database"] cls b.config = .ok ()) ↔
      AcceptsServer b.config := by
  rw [serverTarget_ok, requireFields_ok, AcceptsServer]
  constructor
  · rintro ⟨⟨n, hn⟩, hf⟩
    refine ⟨hf "host" (by simp), hf "database" (by simp), ?_⟩
    have hp := hf "port" (by simp)
    cases hv : b.config.get "port" with
    | none =>
      rw [hv] at hp
      cases hp
    | some v =>
      rw [getOr, hv] at hn
      exact ⟨v, n, rfl, hn⟩
  · rintro ⟨hh, hd, v, n, hv, hn⟩
    refine ⟨⟨n, by rwa [getOr, hv]⟩, ?_⟩
    have hp : notNull (b.config.get "port") = true := by
      rw [hv, notNull, Option.any_some, decide_eq_true_eq]
      rintro rfl
      cases hn
    simp [hh, hd, hp]

lemma server_ok {b : BaseConnector} {port : ℤ} {database : String} {i : Target → ConnectorInstance}
    (hi : ∀ target, (i target).validateConfig =
      requireFields notNull ["host", "port", "database"] cls b.config) :
    (∃ j, (serverTarget P b port database >>= fun target => pure (i target)) = .ok j ∧
        j.validateConfig = .ok ()) ↔ AcceptsServer b.config := by
  rw [← acceptsServer_iff P cls b port database]
  cases ht : serverTarget P b port database with
  | error err =>
    refine iff_of_false ?_ ?_
    · rintro ⟨j, hj, -⟩
      cases hj
    · rintro ⟨⟨target, h⟩, -⟩
      cases h
  | ok target =>
    constructor
    · rintro ⟨j, hj, hv⟩
      cases hj
      exact ⟨⟨target, rfl⟩, (hi target).symm.trans hv⟩
    · rintro ⟨-, hv⟩
      exact ⟨i target, rfl, (hi target).trans hv⟩

lemma construct_ok {b : BaseConnector} {o : JsonFields} (hb : b.credentials = .object o) :
    (∃ i, cls.construct P b = .ok i ∧ i.validateConfig = .ok ()) ↔ cls.Accepts b.config := by
  cases cls with
  | postgresql =>
    have hu : ∃ username, usernameOf P b.credentials = .ok username := by
      rw [hb]
      exact ⟨_, rfl⟩
    obtain ⟨username, hu⟩ := hu
    have hc : ConnectorType.construct .postgresql P b = serverTarget P b 5432 "postgres" >>= fun target =>
        pure ⟨b, .postgresql, .relationalDatabase, target, some username⟩ := by
      change PostgreSQLConnector.init P b = _
      rw [PostgreSQLConnector.init, hu]
      rfl
    rw [hc]
    exact server_ok fun _ => rfl
  | mysql => exact server_ok fun _ => rfl
  | mssql => exact server_ok fun _ => rfl
  | mongodb => exact server_ok fun _ => rfl
  | s3 =>
    have hf : AWSS3Connector.validateConfig .s3 b.config = .ok () ↔ AcceptsBucket b.config := by
      rw [AWSS3Connector.validateConfig, requireFields_ok, AcceptsBucket]
      simp
    constructor
    · rintro ⟨i, hi, hv⟩
      cases hi
      exact hf.mp hv
    · intro h
      exact ⟨_, rfl, hf.mpr h⟩

lemma notNull_same {u v : JsonValue} (h : same u v = true) (hv : notNull (some v)) : notNull (some u) := by
  rw [notNull, Option.any_some, decide_eq_true_eq] at hv ⊢
  rintro rfl
  cases v <;> simp_all [same, number]

lemma any_same {present : JsonValue → Bool} {c c' : JsonFields} (h : sameFields c c' = true)
    (hp : ∀ u v, same u v = true → present v → present u) {k : String} (hk : (c'.get k).any present) :
    (c.get k).any present := by
  rcases get_same h k with ⟨-, hn⟩ | ⟨u, v, hu, hv, hs⟩
  · rw [hn] at hk
    cases hk
  · rw [hv, Option.any_some] at hk
    rw [hu, Option.any_some]
    exact hp u v hs hk

lemma accepts_same {c c' : JsonFields} (h : sameFields c c' = true) (hc : cls.Accepts c') : cls.Accepts c := by
  have hserver : AcceptsServer c' → AcceptsServer c := by
    rintro ⟨hh, hd, v, n, hv, hn⟩
    have hnull : ∀ u v, same u v = true → decide (v ≠ .null) → decide (u ≠ .null) :=
      fun u v hs hv => notNull_same hs hv
    refine ⟨any_same h hnull hh, any_same h hnull hd, ?_⟩
    rcases get_same h "port" with ⟨-, hnone⟩ | ⟨u, w, hu, hw, hs⟩
    · rw [hnone] at hv
      cases hv
    · rw [hw] at hv
      cases hv
      exact ⟨u, n, hu, (toInt_same hs).trans hn⟩
  cases cls with
  | s3 =>
    have htruth : ∀ u v, same u v = true → truth v → truth u := fun u v hs hv => (truth_same hs).trans hv
    exact ⟨any_same h htruth hc.1, any_same h htruth hc.2⟩
  | postgresql => exact hserver hc
  | mysql => exact hserver hc
  | mssql => exact hserver hc
  | mongodb => exact hserver hc

def Instantiable (P : Python) (x : Connector) : Prop :=
  (∃ cls, ConnectorRegistry.get x.connectorType = .ok cls) ∧ ∀ credentials : Option JsonFields,
    ∃ i, ConnectorFactory.createConnector P (toString x.id) x.name x.connectorType x.configuration
      (credentials.map .object) = .ok i

lemma orEmpty_object (credentials : Option JsonFields) :
    ∃ o, orEmpty (credentials.map .object) = .object o := by
  cases credentials with
  | none => exact ⟨.nil, rfl⟩
  | some o =>
    rw [Option.map_some, orEmpty]
    split
    · exact ⟨o, rfl⟩
    · exact ⟨.nil, rfl⟩

lemma createConnector_ok {connectorId name : String} {config : JsonFields} {credentials : Option JsonFields}
    (hc : ConnectorRegistry.get connectorType = .ok cls) :
    (∃ i, ConnectorFactory.createConnector P connectorId name connectorType config
      (credentials.map .object) = .ok i) ↔ cls.Accepts config := by
  obtain ⟨o, ho⟩ := orEmpty_object credentials
  have hb : (⟨connectorId, name, config, orEmpty (credentials.map .object)⟩ : BaseConnector).credentials =
    .object o := ho
  rw [← construct_ok (P := P) hb, ConnectorFactory.createConnector, hc]
  change (∃ i, (cls.construct P ⟨connectorId, name, config, orEmpty (credentials.map .object)⟩ >>=
    fun j => j.validateConfig >>= fun _ => pure j) = .ok i) ↔ _
  cases cls.construct P ⟨connectorId, name, config, orEmpty (credentials.map .object)⟩ with
  | error err =>
    refine iff_of_false ?_ ?_
    · rintro ⟨i, h⟩
      cases h
    · rintro ⟨i, h, -⟩
      cases h
  | ok j =>
    cases hv : j.validateConfig with
    | error err =>
      refine iff_of_false ?_ ?_
      · rintro ⟨i, h⟩
        change (j.validateConfig >>= fun _ => pure j) = .ok i at h
        rw [hv] at h
        cases h
      · rintro ⟨i, h, hi⟩
        cases h
        rw [hv] at hi
        cases hi
    | ok u =>
      refine iff_of_true ⟨j, ?_⟩ ⟨j, rfl, hv⟩
      change (j.validateConfig >>= fun _ => pure j) = .ok j
      rw [hv]
      rfl

lemma instantiable_iff :
    Instantiable P x ↔ ∃ cls, ConnectorRegistry.get x.connectorType = .ok cls ∧ cls.Accepts x.configuration := by
  constructor
  · rintro ⟨⟨cls, hc⟩, h⟩
    exact ⟨cls, hc, (createConnector_ok hc).mp (h none)⟩
  · rintro ⟨cls, hc, ha⟩
    exact ⟨⟨cls, hc⟩, fun credentials => (createConnector_ok hc).mpr ha⟩

lemma get_lower (h : ConnectorRegistry.get connectorType = .ok cls) :
    ConnectorRegistry.get (lower connectorType) = .ok cls := by
  have hc : ConnectorRegistry.canonicalType (lower connectorType) =
      ConnectorRegistry.canonicalType connectorType := by
    rw [ConnectorRegistry.canonicalType, ConnectorRegistry.canonicalType, strip_lower, lower_lower]
  rw [ConnectorRegistry.get] at h ⊢
  rw [hc]
  cases hl : ConnectorRegistry.registry.lookup (ConnectorRegistry.canonicalType connectorType) with
  | some t =>
    rw [hl] at h
    exact h
  | none =>
    rw [hl] at h
    cases h

structure GoesThrough (E : Encryption) (g : Generated) (d : Platform) (k : Uuid) (name : Option String)
    (secretPayload : Option JsonFields) (x : Connector) : Prop where
  found : connectorTable.find k d = some x
  free : ∀ n, name = some n → ∀ y ∈ d.connectors, y.id ≠ k → y.name ≠ n
  secret : givenPayload secretPayload = none ∨
    x.credentialId = none ∧ (∃ key, E.getFernet = .ok key) ∧ Fresh g.credential d

def Suits (d : Platform) : ConnectorCall → Prop
  | .updateConnector E g k name (some configuration) secretPayload =>
    ∀ x, GoesThrough E g d k name secretPayload x → ∀ cls, ConnectorRegistry.get x.connectorType = .ok cls →
      cls.Accepts configuration
  | _ => True

lemma storePayload_through {name : Option String} (h : GoesThrough E g d k name secretPayload x) :
    ∃ o, ConnectorManager.storePayload E g x.connectorType secretPayload x.credentialId (.open d) =
      (.ok ((idOf o).or x.credentialId), ⟨d, withCredential o d⟩) := by
  rcases h.secret with hn | ⟨hc, hk, hf⟩
  · refine ⟨none, ?_⟩
    rw [ConnectorManager.storePayload, hn]
    rfl
  · cases hg : givenPayload secretPayload with
    | none =>
      refine ⟨none, ?_⟩
      rw [ConnectorManager.storePayload, hg]
      rfl
    | some payload =>
      obtain ⟨hs, hp⟩ := Option.filter_eq_some_iff.mp hg
      obtain ⟨stored, he⟩ := encryptPayload_usable.mpr hk
      refine ⟨some (newCredential g.credential x.connectorType stored), ?_⟩
      rw [hs, hc]
      exact storePayload_fresh (by simpa using hp) hf he

lemma connectorClash_free {name : Option String} (h : Coherent d) (ht : GoesThrough E g d k name secretPayload x)
    (configuration : Option JsonFields) (o : Option Credential) :
    connectorClash (withCredential o d)
      (stamp g.connector.now (assign (updateOf name configuration o x) x)) = false := by
  have hx : x ∈ d.connectors := lookup_mem ht.found
  have hk : x.id = k := lookup_key ht.found
  cases name with
  | none => exact connectorClash_kept h.names hx rfl rfl o
  | some n =>
    rw [connectorClash, withCredential_connectors]
    apply List.any_eq_false.mpr
    intro y hy
    simp only [decide_eq_true_eq, not_and]
    intro hne
    exact ht.free n rfl y hy fun he => hne (he.trans hk.symm)

lemma perform_through {name : Option String} (h : Coherent d) (ht : GoesThrough E g d k name secretPayload x)
    (configuration : Option JsonFields) :
    ∃ o, ConnectorCall.perform P d (.updateConnector E g k name configuration secretPayload) =
      connectorTable.put k (updatedRow g (updateOf name configuration o x) x) (withCredential o d) := by
  obtain ⟨o, ho⟩ := storePayload_through ht
  exact ⟨o, request_ok (updateConnector_stored ht.found ho (connectorClash_free h ht configuration o))⟩

/-! ## Runs -/

def AllInstantiable (P : Python) (d : Platform) : Prop := ∀ x ∈ d.connectors, Instantiable P x

lemma updatedRow_configuration (g : Generated) (name : Option String) (configuration : JsonFields)
    (o : Option Credential) (x : Connector) :
    (updatedRow g (updateOf name (some configuration) o x) x).configuration = configuration ∨
      sameFields configuration x.configuration = true ∧
        (updatedRow g (updateOf name (some configuration) o x) x).configuration = x.configuration := by
  have hr : (updatedRow g (updateOf name (some configuration) o x) x).configuration =
      ((some configuration).filter fun c => !sameFields c x.configuration).getD x.configuration :=
    updatedRow_field Connector.configuration fun _ => rfl
  rw [hr, Option.filter_some]
  cases sameFields configuration x.configuration with
  | true => exact Or.inr ⟨rfl, rfl⟩
  | false => exact Or.inl rfl

lemma updatedRow_configuration_none {name : Option String} {o : Option Credential} :
    (updatedRow g (updateOf name none o x) x).configuration = x.configuration :=
  updatedRow_field Connector.configuration fun _ => rfl

lemma updatedRow_connectorType {name : Option String} {configuration : Option JsonFields}
    {o : Option Credential} :
    (updatedRow g (updateOf name configuration o x) x).connectorType = x.connectorType :=
  updatedRow_field Connector.connectorType fun _ => rfl

lemma allInstantiable_put {r : Connector} {o : Option Credential} (h : AllInstantiable P d)
    (hr : Instantiable P r) : AllInstantiable P (connectorTable.put k r (withCredential o d)) := by
  intro y hy
  change y ∈ replace Connector.id k r (withCredential o d).connectors at hy
  rw [withCredential_connectors] at hy
  cases mem_replace hy with
  | inl he => exact he ▸ hr
  | inr hm => exact h y hm

lemma allInstantiable_untouched (h : AllInstantiable P d) (ht : Untouched d t) : AllInstantiable P t := by
  intro x hx
  have hc : core x ∈ d.connectors.map core := ht.connectors ▸ List.mem_map_of_mem hx
  obtain ⟨y, hy, he⟩ := List.mem_map.mp hc
  have hi : Instantiable P (core y) := h y hy
  rw [he] at hi
  exact hi

lemma allInstantiable_create (h : AllInstantiable P d) :
    AllInstantiable P (ConnectorCall.perform P d (.createConnector E g name connectorType category
      configuration secretPayload)) := by
  rcases createConnector_cases (P := P) (E := E) (g := g) (d := d) with hd | ⟨hc, o, -, -, hd⟩
  · rw [hd]
    exact h
  · rw [hd]
    intro x hx
    change x ∈ (withCredential o d).connectors ++ [_] at hx
    rw [withCredential_connectors] at hx
    cases List.mem_append.mp hx with
    | inl hx => exact h x hx
    | inr hx =>
      rw [List.mem_singleton.mp hx, instantiable_iff]
      obtain ⟨cls, i, hcls, hi, hv⟩ := hc
      obtain ⟨creds, ho⟩ := orEmpty_object secretPayload
      exact ⟨cls, get_lower hcls, (construct_ok ho).mp ⟨i, hi, hv⟩⟩

lemma goesThrough_of {name : Option String} {configuration : Option JsonFields} {o : Option Credential}
    (h : Coherent d) (hx : connectorTable.find k d = some x)
    (ho : Provides E g.credential secretPayload x.credentialId d o)
    (hc : connectorClash (withCredential o d)
      (stamp g.connector.now (assign (updateOf name configuration o x) x)) = false) :
    GoesThrough E g d k name secretPayload x where
  found := hx
  free n hn y hy hne he := by
    rw [connectorClash, withCredential_connectors] at hc
    have hcl := List.any_eq_false.mp hc y hy
    rw [decide_eq_true_eq] at hcl
    have hkey : x.id = k := lookup_key hx
    apply hcl
    refine ⟨fun hyx => hne (hyx.trans hkey), ?_⟩
    rw [hn]
    exact he
  secret := by
    cases o with
    | none => exact Or.inl ho
    | some c => exact Or.inr (ho.fresh h (lookup_mem hx))

lemma allInstantiable_update {name : Option String} (hc : Coherent d) (h : AllInstantiable P d) :
    AllInstantiable P (ConnectorCall.perform P d (.updateConnector E g k name (some configuration)
      secretPayload)) ↔ Suits d (.updateConnector E g k name (some configuration) secretPayload) := by
  constructor
  · intro ht x hx cls hcls
    obtain ⟨o, ho⟩ := perform_through (P := P) hc hx (some configuration)
    have hf : connectorTable.find k (withCredential o d) = some x := by
      change lookup Connector.id k (withCredential o d).connectors = some x
      rw [withCredential_connectors]
      exact hx.found
    have hkey : x.id = k := lookup_key hx.found
    have hid : (updatedRow g (updateOf name (some configuration) o x) x).id = k :=
      (updatedRow_field Connector.id fun _ => rfl).trans hkey
    rw [ho] at ht
    obtain ⟨cls', hcls', ha⟩ := instantiable_iff.mp (ht _ (lookup_mem (connectorTable.find_put_self hid hf)))
    rw [updatedRow_connectorType, hcls] at hcls'
    cases hcls'
    rcases updatedRow_configuration g name configuration o x with he | ⟨hs, he⟩
    · rwa [he] at ha
    · rw [he] at ha
      exact accepts_same hs ha
  · intro hs
    rcases updateConnector_cases (P := P) (E := E) (g := g) hc.names with hd | ⟨x, hx, o, ho, hcl, hd⟩
    · rw [hd]
      exact h
    · rw [hd]
      apply allInstantiable_put h
      obtain ⟨cls, hcls, ha⟩ := instantiable_iff.mp (h x (lookup_mem hx))
      rw [instantiable_iff, updatedRow_connectorType]
      refine ⟨cls, hcls, ?_⟩
      rcases updatedRow_configuration g name configuration o x with he | ⟨-, he⟩
      · rw [he]
        exact hs x (goesThrough_of hc hx ho hcl) cls hcls
      · rw [he]
        exact ha

lemma allInstantiable_step (hc : Coherent d) (h : AllInstantiable P d) (c : ConnectorCall) :
    AllInstantiable P (c.perform P d) ↔ Suits d c := by
  cases c with
  | createConnector E g name connectorType category configuration secretPayload =>
    exact iff_of_true (allInstantiable_create h) trivial
  | updateConnector E g k name configuration secretPayload =>
    cases configuration with
    | some configuration => exact allInstantiable_update hc h
    | none =>
      refine iff_of_true ?_ trivial
      rcases updateConnector_cases (P := P) (E := E) (g := g) hc.names with hd | ⟨x, hx, o, -, -, hd⟩
      · rw [hd]
        exact h
      · rw [hd]
        apply allInstantiable_put h
        rw [instantiable_iff, updatedRow_connectorType, updatedRow_configuration_none]
        exact instantiable_iff.mp (h x (lookup_mem hx))
  | deleteConnector k =>
    refine iff_of_true ?_ trivial
    rcases deleteConnector_cases (P := P) (d := d) (k := k) with ⟨hd, -⟩ | ⟨x, -, hd⟩
    · rw [hd]
      exact h
    · rw [hd]
      intro y hy
      change y ∈ erase Connector.id k (withoutCredential x d).connectors at hy
      rw [withoutCredential_connectors] at hy
      exact h y (mem_erase.mp hy).1
  | testConnector E e k => exact iff_of_true (allInstantiable_untouched h (tested_untouched e k)) trivial

theorem stored_connectors_instantiable_iff (takes : Platform → ConnectorCall → Bool) (P : Python)
    (store : Database) (calls : List ConnectorCall) :
    Along (taking takes (connectorStep P)) (fun _ _ t => AllInstantiable P t) (withoutConnectors store) calls ↔
      Along (taking takes (connectorStep P)) (fun s c _ => takes s c = true → Suits s c)
        (withoutConnectors store) calls := by
  apply along_taking_iff (I := Coherent)
  · intro s c t hs ht
    cases ht
    exact coherent_step hs c
  · intro s c t hs hg ht
    cases ht
    exact allInstantiable_step hs hg c
  · exact coherent_withoutConnectors store
  · exact fun x hx => absurd hx List.not_mem_nil

def emptyConfiguration : List ConnectorCall :=
  [createSales none, .updateConnector plainText (generated 20) 13 none (some .nil) none]

theorem unchecked_configuration_stored : ¬ ∀ (takes : Platform → ConnectorCall → Bool) (P : Python)
    (store : Database) (calls : List ConnectorCall),
    Along (taking takes (connectorStep P)) (fun _ _ t => AllInstantiable P t) (withoutConnectors store)
      calls := by
  intro h
  have hrun : Along (taking (fun _ _ => true) (connectorStep plainPython)) (fun _ _ t => ∀ x ∈ t.connectors,
      (ConnectorFactory.createConnector plainPython (toString x.id) x.name x.connectorType x.configuration
        ((none : Option JsonFields).map .object)).toBool = true)
      (withoutConnectors .empty) emptyConfiguration := by
    refine (h (fun _ _ => true) plainPython .empty emptyConfiguration).imp fun s c t _ ht x hx => ?_
    obtain ⟨i, hi⟩ := (ht x hx).2 none
    rw [hi]
    rfl
  exact absurd hrun (by decide +kernel)

end NotebookExecution.Connectors
