import NotebookExecution.Connectors.Operations
import NotebookExecution.Library.Runs

/-! Which connector a credential belongs to. -/

namespace NotebookExecution.Connectors

open Library.Runs Library.Json Library.Transaction Library.Table Store ConnectorRepository

variable {P : Python} {E : Encryption} {g : Generated} {d t : Platform} {k : Uuid} {e : Env}
  {name connectorType category : String} {configuration : JsonFields}
  {secretPayload : Option JsonFields} {x : Connector} {o : Option Credential}

/-! ## Coherence is kept -/

lemma Provides.free {current : Option String} {c : Credential}
    (h : Provides E g.credential secretPayload current d (some c)) :
    (∀ y ∈ d.credentials, y.id ≠ c.id) ∧ ∀ y ∈ d.credentials, y.credentialId ≠ c.credentialId := by
  obtain ⟨payload, -, hs, -⟩ := h
  obtain ⟨hf, hc⟩ := credentialTable.occupied_inv hs.free
  have hid : ∀ y ∈ d.credentials, y.id ≠ c.id := lookup_none.mp hf
  refine ⟨hid, fun y hy he => ?_⟩
  have hn := List.any_eq_false.mp hc y hy
  simp [hid y hy, he] at hn

lemma connector_free (h : connectorTable.occupied connectorClash x (withCredential o d) = false) :
    (∀ y ∈ d.connectors, y.id ≠ x.id) ∧ ∀ y ∈ d.connectors, y.name ≠ x.name := by
  obtain ⟨hf, hc⟩ := connectorTable.occupied_inv h
  rw [connectorClash, withCredential_connectors] at hc
  have hid : ∀ y ∈ (withCredential o d).connectors, y.id ≠ x.id := lookup_none.mp hf
  rw [withCredential_connectors] at hid
  refine ⟨hid, fun y hy he => ?_⟩
  have hn := List.any_eq_false.mp hc y hy
  simp [hid y hy, he] at hn

lemma Coherent.credentials (h : Coherent d) {current : Option String}
    (ho : Provides E g.credential secretPayload current d o) :
    ((withCredential o d).credentials.map Credential.id).Nodup ∧
      ((withCredential o d).credentials.map Credential.credentialId).Nodup := by
  rw [withCredential_credentials]
  cases o with
  | none =>
    rw [Option.toList_none, List.append_nil]
    exact ⟨h.credentialKeys, h.credentialIds⟩
  | some c =>
    obtain ⟨hid, hname⟩ := ho.free
    exact ⟨concat_map_nodup h.credentialKeys hid, concat_map_nodup h.credentialIds hname⟩

lemma Coherent.append (h : Coherent d) (ho : Provides E g.credential secretPayload none d o)
    (hx : connectorTable.occupied connectorClash x (withCredential o d) = false)
    (hid : x.credentialId = idOf o) : Coherent (connectorTable.append x (withCredential o d)) := by
  obtain ⟨hk, hn⟩ := connector_free hx
  obtain ⟨hck, hci⟩ := h.credentials ho
  refine ⟨?_, ?_, hck, hci, ?_⟩
  · change (((withCredential o d).connectors ++ [x]).map Connector.id).Nodup
    rw [withCredential_connectors]
    exact concat_map_nodup h.connectorIds hk
  · change (((withCredential o d).connectors ++ [x]).map Connector.name).Nodup
    rw [withCredential_connectors]
    exact concat_map_nodup h.names hn
  · change (((withCredential o d).connectors ++ [x]).filterMap Connector.credentialId).Perm
      ((withCredential o d).credentials.map Credential.credentialId)
    rw [withCredential_connectors, withCredential_credentials, List.filterMap_append, List.map_append]
    apply h.matched.append
    cases o with
    | none =>
      rw [List.filterMap_cons_none hid]
      exact .refl _
    | some c =>
      rw [List.filterMap_cons_some hid]
      exact .refl _

lemma Coherent.provides_new (h : Coherent d) (hx : x ∈ d.connectors) {c : Credential}
    (ho : Provides E g.credential secretPayload x.credentialId d (some c)) : x.credentialId = none := by
  cases hc : x.credentialId with
  | none => rfl
  | some cid =>
    have hm : cid ∈ d.credentials.map Credential.credentialId :=
      h.matched.subset (List.mem_filterMap.mpr ⟨x, hx, hc⟩)
    obtain ⟨y, hy, hyc⟩ := List.mem_map.mp hm
    obtain ⟨-, hfree⟩ := ho.free
    obtain ⟨payload, -, -, hid⟩ := ho
    rw [hc, Option.getD_some] at hid
    exact absurd (hyc.trans hid.symm) (hfree y hy)

lemma updatedRow_field {β : Type} {u : ConnectorUpdate} (f : Connector → β)
    (hf : ∀ y, f (stamp g.connector.now y) = f y) : f (updatedRow g u x) = f (assign u x) :=
  TableOf.settled_field f hf x

lemma Coherent.put {name : Option String} {configuration : Option JsonFields} (h : Coherent d)
    (hx : connectorTable.find k d = some x)
    (ho : Provides E g.credential secretPayload x.credentialId d o)
    (hc : connectorClash (withCredential o d)
      (stamp g.connector.now (assign (updateOf name configuration o x) x)) = false) :
    Coherent (connectorTable.put k (updatedRow g (updateOf name configuration o x) x)
      (withCredential o d)) := by
  have hm : x ∈ d.connectors := lookup_mem hx
  have hkey : x.id = k := lookup_key hx
  obtain ⟨hck, hci⟩ := h.credentials ho
  have hid : (updatedRow g (updateOf name configuration o x) x).id = k :=
    (updatedRow_field Connector.id fun _ => rfl).trans hkey
  refine ⟨?_, ?_, hck, hci, ?_⟩
  · change ((replace Connector.id k _ (withCredential o d).connectors).map Connector.id).Nodup
    rw [replace_map_key hid, withCredential_connectors]
    exact h.connectorIds
  · change ((replace Connector.id k _ (withCredential o d).connectors).map Connector.name).Nodup
    rw [withCredential_connectors]
    apply replace_map_nodup h.connectorIds h.names
    intro y hy hne he
    rw [updatedRow_field Connector.name fun _ => rfl] at he
    rw [connectorClash, withCredential_connectors] at hc
    have hn := List.any_eq_false.mp hc y hy
    rw [decide_eq_true_eq] at hn
    exact hn ⟨fun hyx => hne (hyx.trans hkey), he⟩
  · change ((replace Connector.id k _ (withCredential o d).connectors).filterMap
      Connector.credentialId).Perm ((withCredential o d).credentials.map Credential.credentialId)
    rw [withCredential_connectors, withCredential_credentials]
    have hcred : (updatedRow g (updateOf name configuration o x) x).credentialId =
        ((idOf o).or x.credentialId).or x.credentialId :=
      updatedRow_field Connector.credentialId fun _ => rfl
    have hl : d.connectors.Perm (x :: erase Connector.id k d.connectors) := perm_erase h.connectorIds hx
    have hr : (replace Connector.id k (updatedRow g (updateOf name configuration o x) x) d.connectors).Perm
        (updatedRow g (updateOf name configuration o x) x :: erase Connector.id k d.connectors) :=
      replace_perm h.connectorIds hx
    refine (hr.filterMap Connector.credentialId).trans ?_
    cases o with
    | none =>
      have hsame : (updatedRow g (updateOf name configuration none x) x).credentialId = x.credentialId := by
        rw [hcred]
        cases x.credentialId <;> rfl
      rw [Option.toList_none, List.append_nil]
      refine .trans ?_ ((hl.filterMap Connector.credentialId).symm.trans h.matched)
      rw [List.filterMap_cons, List.filterMap_cons, hsame]
    | some c =>
      have hnone : x.credentialId = none := h.provides_new hm ho
      have hnew : (updatedRow g (updateOf name configuration (some c) x) x).credentialId =
          some c.credentialId := by
        rw [hcred]
        rfl
      rw [List.filterMap_cons_some hnew, Option.toList_some, List.map_append]
      have hrest : (erase Connector.id k d.connectors).filterMap Connector.credentialId =
          (x :: erase Connector.id k d.connectors).filterMap Connector.credentialId :=
        (List.filterMap_cons_none hnone).symm
      rw [hrest]
      exact (((hl.filterMap Connector.credentialId).symm.trans h.matched).cons _).trans
        (List.perm_append_singleton _ _).symm

lemma named_stored (h : Coherent d) (hx : x ∈ d.connectors) {c : String} (hc : x.credentialId = some c) :
    ∃ cred, CredentialRepository.named c d = some cred ∧ cred ∈ d.credentials ∧ cred.credentialId = c := by
  have hm : c ∈ d.credentials.map Credential.credentialId :=
    h.matched.subset (List.mem_filterMap.mpr ⟨x, hx, hc⟩)
  obtain ⟨y, hy, hyc⟩ := List.mem_map.mp hm
  cases hn : CredentialRepository.named c d with
  | none => exact absurd hyc (by simpa using List.find?_eq_none.mp hn y hy)
  | some cred => exact ⟨cred, rfl, List.mem_of_find?_eq_some hn, by simpa using List.find?_some hn⟩

lemma Coherent.drop (h : Coherent d) (hx : connectorTable.find k d = some x) :
    Coherent (connectorTable.drop k (withoutCredential x d)) := by
  have hl : d.connectors.Perm (x :: erase Connector.id k d.connectors) := perm_erase h.connectorIds hx
  have hf := (hl.filterMap Connector.credentialId).symm.trans h.matched
  rw [withoutCredential]
  cases hc : x.credentialId with
  | none =>
    rw [List.filterMap_cons_none hc] at hf
    exact ⟨h.connectorIds.sublist (List.filter_sublist.map _), h.names.sublist (List.filter_sublist.map _),
      h.credentialKeys, h.credentialIds, hf⟩
  | some c =>
    obtain ⟨cred, hn, hm, hcc⟩ := named_stored h (lookup_mem hx) hc
    rw [Option.bind_some, hn]
    have hp : d.credentials.Perm (cred :: erase Credential.id cred.id d.credentials) :=
      perm_erase h.credentialKeys (lookup_of_mem h.credentialKeys hm)
    rw [List.filterMap_cons_some hc] at hf
    have hcred := hf.trans (hp.map Credential.credentialId)
    rw [List.map_cons, hcc] at hcred
    exact ⟨h.connectorIds.sublist (List.filter_sublist.map _), h.names.sublist (List.filter_sublist.map _),
      h.credentialKeys.sublist (List.filter_sublist.map _),
      h.credentialIds.sublist (List.filter_sublist.map _), hcred.cons_inv⟩

lemma Coherent.untouched (h : Coherent d) (ht : Untouched d t) : Coherent t := by
  have hmap : ∀ {β : Type} (f : Connector → β), (∀ x, f (core x) = f x) →
      t.connectors.map f = d.connectors.map f := by
    intro β f hf
    have hc := congrArg (List.map f) ht.connectors
    rw [List.map_map, List.map_map] at hc
    have hfc : f ∘ core = f := funext hf
    rwa [hfc] at hc
  have hcred : t.connectors.filterMap Connector.credentialId = d.connectors.filterMap Connector.credentialId := by
    have hc := congrArg (List.filterMap id) (hmap Connector.credentialId fun _ => rfl)
    rwa [List.filterMap_map, List.filterMap_map] at hc
  refine ⟨?_, ?_, ?_, ?_, ?_⟩
  · rw [hmap Connector.id fun _ => rfl]
    exact h.connectorIds
  · rw [hmap Connector.name fun _ => rfl]
    exact h.names
  · rw [ht.credentials]
    exact h.credentialKeys
  · rw [ht.credentials]
    exact h.credentialIds
  · rw [hcred, ht.credentials]
    exact h.matched

lemma coherent_step (h : Coherent d) (c : ConnectorCall) : Coherent (c.perform P d) := by
  cases c with
  | createConnector E g name connectorType category configuration secretPayload =>
    rcases createConnector_cases (P := P) (E := E) (g := g) (d := d) with hd | ⟨-, o, ho, hf, hd⟩
    · rw [hd]
      exact h
    · rw [hd]
      exact h.append ho hf rfl
  | updateConnector E g k name configuration secretPayload =>
    rcases updateConnector_cases (P := P) (E := E) (g := g) h.names with hd | ⟨x, hx, o, ho, hc, hd⟩
    · rw [hd]
      exact h
    · rw [hd]
      exact h.put hx ho hc
  | deleteConnector k =>
    rcases deleteConnector_cases (P := P) (d := d) (k := k) with ⟨hd, -⟩ | ⟨x, hx, hd⟩
    · rw [hd]
      exact h
    · rw [hd]
      exact h.drop hx
  | testConnector E e k => exact h.untouched (tested_untouched e k)

lemma coherent_withoutConnectors (store : Database) : Coherent (withoutConnectors store) :=
  ⟨.nil, .nil, .nil, .nil, .nil⟩

lemma coherent_reached {store : Database} {calls : List ConnectorCall}
    (h : exec (connectorStep P) (withoutConnectors store) calls = some d) : Coherent d := by
  have htrue : Along (connectorStep P) (fun _ _ _ => True) (withoutConnectors store) calls :=
    along_of_step fun _ _ _ _ => trivial
  refine Along.invariant (fun s c t hs ht _ => ?_) (coherent_withoutConnectors store) htrue h
  cases ht
  exact coherent_step hs c

structure Owned (d : Platform) : Prop where
  resolves : ∀ x ∈ d.connectors, ∀ c, x.credentialId = some c → ∃ y ∈ d.credentials, y.credentialId = c
  owner : ∀ y ∈ d.credentials, ∃! x, x ∈ d.connectors ∧ x.credentialId = some y.credentialId

def RemovesOwn (s : Platform) (c : ConnectorCall) (t : Platform) : Prop :=
  match c with
  | .deleteConnector k => ∀ x ∈ s.connectors, x.id = k →
    t.credentials = s.credentials.filter fun y => some y.credentialId ≠ x.credentialId
  | _ => ∀ y ∈ s.credentials, y ∈ t.credentials

lemma Coherent.named_once (h : Coherent d) {x y : Connector} (hx : x ∈ d.connectors)
    (hy : y ∈ d.connectors) {c : String} (hxc : x.credentialId = some c) (hyc : y.credentialId = some c) :
    x = y := by
  have hn : (d.connectors.filterMap Connector.credentialId).Nodup := h.matched.nodup_iff.mpr h.credentialIds
  have hl : d.connectors.Perm (x :: erase Connector.id x.id d.connectors) :=
    perm_erase h.connectorIds (lookup_of_mem h.connectorIds hx)
  have hxn := (hl.filterMap Connector.credentialId).nodup_iff.mp hn
  rw [List.filterMap_cons_some hxc, List.nodup_cons] at hxn
  cases List.mem_cons.mp (hl.subset hy) with
  | inl he => exact he.symm
  | inr hm => exact absurd (List.mem_filterMap.mpr ⟨y, hm, hyc⟩) hxn.1

lemma Coherent.owned (h : Coherent d) : Owned d where
  resolves x hx c hc := by
    obtain ⟨cred, -, hm, hcc⟩ := named_stored h hx hc
    exact ⟨cred, hm, hcc⟩
  owner y hy := by
    have hm : y.credentialId ∈ d.connectors.filterMap Connector.credentialId :=
      h.matched.symm.subset (List.mem_map_of_mem hy)
    obtain ⟨x, hx, hc⟩ := List.mem_filterMap.mp hm
    exact ⟨x, ⟨hx, hc⟩, fun z hz => h.named_once hz.1 hx hz.2 hc⟩

lemma removesOwn_delete (h : Coherent d) (hx : x ∈ d.connectors) :
    (withoutCredential x d).credentials =
      d.credentials.filter fun y => some y.credentialId ≠ x.credentialId := by
  rw [withoutCredential]
  cases hc : x.credentialId with
  | none =>
    symm
    apply List.filter_eq_self.mpr
    intro y hy
    simp
  | some c =>
    obtain ⟨cred, hn, hm, hcc⟩ := named_stored h hx hc
    rw [Option.bind_some, hn]
    apply List.filter_congr
    intro y hy
    rw [decide_eq_decide]
    refine not_congr ⟨fun hid => ?_, fun hyc => ?_⟩
    · have hy' : y = cred := List.inj_on_of_nodup_map h.credentialKeys hy hm hid
      rw [hy', hcc]
    · have hy' : y = cred :=
        List.inj_on_of_nodup_map h.credentialIds hy hm ((Option.some_inj.mp hyc).trans hcc.symm)
      rw [hy']
      rfl

lemma removesOwn_step (h : Coherent d) (c : ConnectorCall) : RemovesOwn d c (c.perform P d) := by
  have hkeeps : ∀ (o : Option Credential), ∀ y ∈ d.credentials, y ∈ (withCredential o d).credentials := by
    intro o y hy
    rw [withCredential_credentials]
    exact List.mem_append_left _ hy
  cases c with
  | createConnector E g name connectorType category configuration secretPayload =>
    intro y hy
    rcases createConnector_cases (P := P) (E := E) (g := g) (d := d) with hd | ⟨-, o, -, -, hd⟩
    · rw [hd]
      exact hy
    · rw [hd]
      exact hkeeps o y hy
  | updateConnector E g k name configuration secretPayload =>
    intro y hy
    rcases updateConnector_cases (P := P) (E := E) (g := g) h.names with hd | ⟨x, -, o, -, -, hd⟩
    · rw [hd]
      exact hy
    · rw [hd]
      exact hkeeps o y hy
  | deleteConnector k =>
    intro x hx hk
    have hf : connectorTable.find k d = some x := hk ▸ lookup_of_mem h.connectorIds hx
    rcases deleteConnector_cases (P := P) (d := d) (k := k) with ⟨-, hn⟩ | ⟨z, hz, hd⟩
    · rw [hf] at hn
      cases hn
    · rw [hf] at hz
      cases hz
      rw [hd]
      exact removesOwn_delete h hx
  | testConnector E e k =>
    intro y hy
    rw [(tested_untouched e k).credentials]
    exact hy

theorem credentials_owned (P : Python) (store : Database) (calls : List ConnectorCall) :
    Along (connectorStep P) (fun s c t => Owned t ∧ RemovesOwn s c t) (withoutConnectors store) calls := by
  have htrue : Along (connectorStep P) (fun _ _ _ => True) (withoutConnectors store) calls :=
    along_of_step fun _ _ _ _ => trivial
  refine along_of_invariant (I := Coherent) (fun s c t hs ht _ => ?_) (coherent_withoutConnectors store) htrue
  cases ht
  exact ⟨coherent_step hs c, (coherent_step hs c).owned, removesOwn_step hs c⟩

end NotebookExecution.Connectors
