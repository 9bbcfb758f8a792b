import MeshControl.Api.Client
import MeshControl.Proofs.Steps

/-! Discovery and scope of the client over the API server: a kind is discovered until a use of it
resolves, and each call addresses the collection its kind's scope gives. -/

namespace MeshControl

/-! ### The client's state -/

namespace KubeClient

/-- The resource cached for a group, version and kind. -/
def cached (c : KubeClient) (gvk : String × String × String) : Option ApiResource :=
  (c.cache.find? (·.1 == gvk)).map (·.2)

/-- The client once a request is sent: the server has answered it and logged it. -/
def sent (c : KubeClient) (r : ApiRequest) : KubeClient := { c with server := (c.server.send r).2 }

@[simp] theorem sent_cache (c : KubeClient) (r : ApiRequest) : (c.sent r).cache = c.cache := rfl

/-- A later state of the client that has only sent requests: the same cache, and a log that
extends the earlier one. -/
def Sends (c c' : KubeClient) : Prop := c'.cache = c.cache ∧ c.server.log <+: c'.server.log

instance : IsPreorder KubeClient Sends where
  refl _ := ⟨rfl, List.prefix_refl _⟩
  trans _ _ _ first second := ⟨second.1.trans first.1, first.2.trans second.2⟩

/-- The cache gives the same entries to clients that hold the same cache. -/
theorem cached_congr {c c' : KubeClient} (same : c'.cache = c.cache) (g : String × String × String) :
    c'.cached g = c.cached g := by
  simp [cached, same]

/-- An entry appended for a kind not yet cached is what the cache then gives for it, and the
other kinds keep what they had. -/
theorem cached_append {c c' : KubeClient} {g : String × String × String} (fresh : c.cached g = none)
    {r : ApiResource} (appended : c'.cache = c.cache ++ [(g, r)]) (g' : String × String × String) :
    c'.cached g' = if g = g' then some r else c.cached g' := by
  unfold cached
  rw [appended, List.find?_append]
  -- The new entry is found only for its own kind; others are found before it or not at all.
  by_cases same : g = g'
  · subst same
    have miss : c.cache.find? (·.1 == g) = none := Option.map_eq_none_iff.mp fresh
    simp [miss]
  · have differ : (g == g') = false := by simpa using same
    simp [differ, same]

end KubeClient

theorem ApiServer.send_log (s : ApiServer) (r : ApiRequest) : (s.send r).2.log = s.log ++ [r] := by
  simp only [ApiServer.send]
  -- Every answer the server gives logs the request.
  split <;> (try split) <;> rfl

theorem KubeClient.sends_sent (c : KubeClient) (r : ApiRequest) : c.Sends (c.sent r) :=
  ⟨rfl, by simp [sent, ApiServer.send_log]⟩

/-- The target whose resource list discovery reads: the core group's version, or the group
version. -/
def discoveryTarget (group version : String) : String :=
  if group.isEmpty then "/api/" ++ version else "/apis/" ++ group ++ "/" ++ version

/-! ### Steps of a call -/

namespace KubeM

@[simp] theorem run_ofExcept_ok {α : Type} (a : α) (c : KubeClient) :
    (ofExcept (.ok a : Except Error α)).run c = .ok a c := rfl

@[simp] theorem run_ofExcept_error {α : Type} (e : Error) (c : KubeClient) :
    (ofExcept (.error e : Except Error α)).run c = .error e c := rfl

theorem run_requestTo_ok {fail : String → ApiFailure} {method target : String} {body : Option String}
    {r : ApiRequest} (valid : ApiRequest.ofTarget method target body = .ok r) (c : KubeClient) :
    (requestTo fail method target body).run c = .ok r c := by
  simp only [requestTo, valid]
  rfl

theorem run_requestTo_error {fail : String → ApiFailure} {method target : String} {body : Option String}
    {e : TargetError} (invalid : ApiRequest.ofTarget method target body = .error e) (c : KubeClient) :
    (requestTo fail method target body).run c = .error (.kube (fail e.message)) c := by
  simp only [requestTo, invalid]
  rfl

/-- A request is sent and answered, and the call goes on from the client that sent it. -/
theorem run_fetch (r : ApiRequest) (c : KubeClient) :
    (fetch r).run c = (ofExcept (responseText (c.server.send r).1)).run (c.sent r) := by
  simp only [fetch, EStateM.run_bind, EStateM.run_get, EStateM.run_set]
  rfl

/-- Reading a record sends one request and ends there, whatever the answer. -/
theorem run_fetchRecord {α : Type} (read : Yaml → Decoded α) (r : ApiRequest) (c : KubeClient) :
    ∃ res : Except Error α, (fetchRecord read r).run c = (ofExcept res).run (c.sent r) := by
  simp only [fetchRecord, EStateM.run_bind, run_fetch]
  -- A failed answer ends the read, a text is decoded; either way nothing more is sent.
  cases responseText (c.server.send r).1 with
  | error e => exact ⟨.error e, rfl⟩
  | ok text => exact ⟨readRecord read text, rfl⟩

theorem ofExcept_sends {α : Type} (x : Except Error α) : Keeps KubeClient.Sends (ofExcept x) := by
  intro c
  cases x <;> exact refl_of _ c

theorem requestTo_sends (fail : String → ApiFailure) (method target : String) (body : Option String) :
    Keeps KubeClient.Sends (requestTo fail method target body) := by
  intro c
  -- Building a request sends nothing, valid or not.
  cases checked : ApiRequest.ofTarget method target body with
  | ok r => simpa [run_requestTo_ok checked] using refl_of _ c
  | error e => simpa [run_requestTo_error checked] using refl_of _ c

theorem built_sends (method target : String) (body : Option String) :
    Keeps KubeClient.Sends (built method target body) :=
  requestTo_sends _ method target body

theorem needName_sends (name : String) : Keeps KubeClient.Sends (needName name) := by
  unfold needName
  -- An empty name is refused before anything is sent.
  split
  · exact Keeps.throw _
  · exact Keeps.pure _

theorem fetch_sends (r : ApiRequest) : Keeps KubeClient.Sends (fetch r) := by
  intro c
  rw [run_fetch]
  -- Whatever the server answered, the client has only logged one more request.
  cases responseText (c.server.send r).1 <;> exact c.sends_sent r

theorem fetchRecord_sends {α : Type} (read : Yaml → Decoded α) (r : ApiRequest) :
    Keeps KubeClient.Sends (fetchRecord read r) :=
  Keeps.bind (fetch_sends r) fun _ => ofExcept_sends _

end KubeM

/-! ### Discovery -/

namespace KubeM

/-- A cached kind resolves to its entry, and nothing is sent. -/
theorem resolve_run_cached {c : KubeClient} {g v k : String} {r : ApiResource}
    (found : c.cached (g, v, k) = some r) : (resolve g v k).run c = .ok r c := by
  -- The cache lookup hits, so resolving answers from it.
  obtain ⟨⟨key, r'⟩, hit, rfl⟩ := Option.map_eq_some_iff.mp found
  simp [resolve, hit]

/-- An uncached kind is resolved by discovery. When its target is a valid request, that request
is the one thing sent, and the kind is cached under the resource discovery found, or discovery
fails and nothing is cached. -/
theorem resolve_run_fresh {c : KubeClient} {g v k : String} (fresh : c.cached (g, v, k) = none)
    {req : ApiRequest} (valid : ApiRequest.ofTarget "GET" (discoveryTarget g v) none = .ok req) :
    (∃ r, (resolve g v k).run c = .ok r { c.sent req with cache := c.cache ++ [((g, v, k), r)] }) ∨
      ∃ e, (resolve g v k).run c = .error e (c.sent req) := by
  -- The cache misses, so resolving sends discovery.
  have miss : c.cache.find? (·.1 == (g, v, k)) = none := Option.map_eq_none_iff.mp fresh
  simp only [discoveryTarget] at valid
  obtain ⟨listed, fetched⟩ := run_fetchRecord ResourceList.decode req c
  simp only [resolve, EStateM.run_bind, EStateM.run_get, miss, run_requestTo_ok valid, fetched]
  -- The answer is read, then the kind is looked up in it: only a hit touches the cache.
  cases listed with
  | error e => exact .inr ⟨e, rfl⟩
  | ok list =>
    simp only [run_ofExcept_ok]
    split
    · exact .inl ⟨_, rfl⟩
    · exact .inr ⟨_, rfl⟩

/-- Discovery whose target is no valid request fails before anything is sent. -/
theorem resolve_run_invalid {c : KubeClient} {g v k : String} (fresh : c.cached (g, v, k) = none)
    {e : TargetError} (invalid : ApiRequest.ofTarget "GET" (discoveryTarget g v) none = .error e) :
    (resolve g v k).run c = .error (.kube (.badUri e.message)) c := by
  -- The cache misses, and the discovery target is refused before it is sent.
  have miss : c.cache.find? (·.1 == (g, v, k)) = none := Option.map_eq_none_iff.mp fresh
  simp only [discoveryTarget] at invalid
  simp only [resolve, EStateM.run_bind, EStateM.run_get, miss, run_requestTo_error invalid]

/-- Resolving an uncached kind caches it under the resource found when it succeeds, and caches
nothing when it fails. -/
theorem resolve_run_fresh_cache {c : KubeClient} {g v k : String} (fresh : c.cached (g, v, k) = none) :
    (∀ r c', (resolve g v k).run c = .ok r c' → c'.cache = c.cache ++ [((g, v, k), r)]) ∧
      ∀ e c', (resolve g v k).run c = .error e c' → c'.cache = c.cache := by
  -- Discovery fails to build a request, fails on the answer, or finds the kind.
  cases checked : ApiRequest.ofTarget "GET" (discoveryTarget g v) none with
  | error e =>
    rw [resolve_run_invalid fresh checked]
    exact ⟨(fun r c' ran => by cases ran), (fun e' c' ran => by cases ran; rfl)⟩
  | ok req =>
    rcases resolve_run_fresh fresh checked with ⟨found, ran⟩ | ⟨failure, ran⟩ <;> rw [ran]
    · exact ⟨(fun r c' same => by cases same; rfl), (fun e c' same => by cases same)⟩
    · exact ⟨(fun r c' same => by cases same), (fun e c' same => by cases same; rfl)⟩

end KubeM

/-- Resolving a kind from a state of the client gives a resource. -/
def KubeClient.Resolves (c : KubeClient) (g : String × String × String) : Prop :=
  ∃ r c', (KubeM.resolve g.1 g.2.1 g.2.2).run c = .ok r c'

/-- Resolving a kind keeps every entry cached before. -/
theorem KubeM.cached_resolve_of_some {c : KubeClient} {g g' : String × String × String} {r : ApiResource}
    (held : c.cached g' = some r) : (endState ((resolve g.1 g.2.1 g.2.2).run c)).cached g' = some r := by
  obtain ⟨group, version, kind⟩ := g
  -- A cached kind resolves with no change; a fresh one may append its entry.
  cases hit : c.cached (group, version, kind) with
  | some _ => simpa [resolve_run_cached hit] using held
  | none =>
    have cache := resolve_run_fresh_cache hit
    -- A fresh kind is not `g'`, which is cached, so its entry leaves `g'` alone.
    have other : (group, version, kind) ≠ g' := fun same => by simp [same, held] at hit
    cases ran : (resolve group version kind).run c with
    | ok r' c' =>
      simpa [other, held] using KubeClient.cached_append hit (cache.1 r' c' ran) g'
    | error e c' =>
      simpa [held] using KubeClient.cached_congr (cache.2 e c' ran) g'

/-- A kind not cached before is cached after resolving exactly when it is the kind resolved and
resolution gave a resource, and then under that resource. -/
theorem KubeM.cached_resolve_of_none {c : KubeClient} {g g' : String × String × String} {r : ApiResource}
    (fresh : c.cached g' = none) :
    (endState ((resolve g.1 g.2.1 g.2.2).run c)).cached g' = some r ↔
      g = g' ∧ ∃ c', (resolve g.1 g.2.1 g.2.2).run c = .ok r c' := by
  obtain ⟨group, version, kind⟩ := g
  cases hit : c.cached (group, version, kind) with
  | some r' =>
    -- A cached kind is not `g'`, and resolving it changes nothing.
    have other : (group, version, kind) ≠ g' := fun same => by simp [same, fresh] at hit
    simp [resolve_run_cached hit, fresh, other]
  -- A fresh kind gets an entry only when resolving it succeeds.
  | none =>
    have cache := resolve_run_fresh_cache hit
    cases ran : (resolve group version kind).run c with
    | ok r' c' =>
      rw [endState_ok, KubeClient.cached_append hit (cache.1 r' c' ran) g']
      by_cases same : (group, version, kind) = g'
      · simp [same, eq_comm]
      · simp [same, fresh]
    | error e c' =>
      simp [KubeClient.cached_congr (cache.2 e c' ran) g', fresh]

namespace KubeM

/-- Having resolved the kind of a key, the collection is the kind's collection in the key's
namespace when the kind is namespaced, where an empty namespace is refused, and the collection
across the cluster otherwise; what follows starts there. -/
theorem run_pathFor_bind_of_resolved {α : Type} {key : ResourceKey} (f : String → KubeM α)
    {s s₁ : KubeClient} {r : ApiResource}
    (resolved : (resolve key.group key.version key.kind).run s = .ok r s₁) :
    (pathFor key >>= f).run s =
      if r.namespaced then
        if key.ns.isEmpty then .error (.manifest (key.kind ++ " is namespaced but no namespace was given")) s₁
        else (f (r.path (some key.ns))).run s₁
      else (f (r.path none)).run s₁ := by
  -- The path turns on the kind's scope and, for a namespaced kind, on the namespace given.
  simp only [pathFor, bind_assoc, EStateM.run_bind, resolved]
  by_cases namespaced : r.namespaced <;> by_cases empty : key.ns.isEmpty <;>
    simp [namespaced, empty]

/-- A kind that does not resolve fails the call with the same failure, and nothing follows. -/
theorem run_pathFor_bind_of_failed {α : Type} {key : ResourceKey} (f : String → KubeM α)
    {s s₁ : KubeClient} {e : Error}
    (failed : (resolve key.group key.version key.kind).run s = .error e s₁) :
    (pathFor key >>= f).run s = .error e s₁ := by
  simp only [pathFor, bind_assoc, EStateM.run_bind, failed]

end KubeM

/-! ### Calls -/

/-- A call of the client's verbs. -/
inductive ClientCall where
  | get (key : ResourceKey)
  | list (group version kind : String) (ns selector : Option String)
  | create (o : Object)
  | update (o : Object)
  | patch (key : ResourceKey) (body : Json)
  | patchStatus (key : ResourceKey) (body : Json)
  | delete (key : ResourceKey) (propagation : Option Propagation)

namespace ClientCall

/-- Runs a call through the client, its answer dropped. -/
def run : ClientCall → KubeM Unit
  | .get key => discard (KubeM.getObject key)
  | .list group version kind ns selector => discard (KubeM.listObjects group version kind ns selector)
  | .create o => discard (KubeM.createObject o)
  | .update o => discard (KubeM.updateObject o)
  | .patch key body => discard (KubeM.patchObject key body)
  | .patchStatus key body => discard (KubeM.patchObjectStatus key body)
  | .delete key propagation => KubeM.deleteObject key propagation

/-- The key of the one object a call addresses: create and update take it from their object, when
it has one; a listing addresses none. -/
def key? : ClientCall → Option ResourceKey
  | .get key => some key
  | .list .. => none
  | .create o => o.key.toOption
  | .update o => o.key.toOption
  | .patch key _ => some key
  | .patchStatus key _ => some key
  | .delete key _ => some key

/-- The group, version and kind a call uses. -/
def kind? : ClientCall → Option (String × String × String)
  | .list group version kind _ _ => some (group, version, kind)
  | c => c.key?.map fun key => (key.group, key.version, key.kind)

/-- What a call does once it knows the collection `base` it addresses: the one request it sends
there, and how it reads the answer. -/
def object (base : String) : ClientCall → KubeM Unit
  | .get key => discard do
    KubeM.needName key.name
    KubeM.fetchRecord Object.decode (← KubeM.built "GET" (base ++ "/" ++ key.name) none)
  | .list _ _ _ _ selector => discard do
    let query := (selector.map fun s => "&labelSelector=" ++ KubeM.formEncode s).getD ""
    KubeM.ofExcept (KubeM.listRecords Object.decode
      (← KubeM.fetch (← KubeM.built "GET" (base ++ "?" ++ query) none)))
  | .create o => discard do
    KubeM.fetchRecord Object.decode (← KubeM.built "POST" (base ++ "?") (some o.toJson.render))
  | .update o => discard do
    let key ← KubeM.ofExcept o.key
    KubeM.needName key.name
    KubeM.fetchRecord Object.decode
      (← KubeM.built "PUT" (base ++ "/" ++ key.name ++ "?") (some o.toJson.render))
  | .patch key body => discard do
    KubeM.needName key.name
    KubeM.fetchRecord Object.decode
      (← KubeM.built "PATCH" (base ++ "/" ++ key.name ++ "?") (some body.render))
  | .patchStatus key body => discard do
    KubeM.needName key.name
    KubeM.fetchRecord Object.decode
      (← KubeM.built "PATCH" (base ++ "/" ++ key.name ++ "/status?") (some body.render))
  | .delete key propagation => do
    KubeM.needName key.name
    let text ← KubeM.fetch
      (← KubeM.built "DELETE" (base ++ "/" ++ key.name ++ "?") (some (KubeM.deleteBody propagation).render))
    let j ← KubeM.ofExcept ((Json.parse text).mapError fun e => .kube (.badBody e.message))
    if j.get? "kind" == some (.str "Status") then KubeM.ofExcept (readRecord readDeleteStatus text)
    else discard <| KubeM.ofExcept (readRecord Object.decode text)

/-- What a call does at its collection only sends requests: it leaves the cache alone. -/
theorem object_sends (base : String) (c : ClientCall) : Keeps KubeClient.Sends (c.object base) := by
  cases c with
  | get key | patch key _ | patchStatus key _ =>
    exact Keeps.map _ (Keeps.bind (KubeM.needName_sends _) fun _ =>
      Keeps.bind (KubeM.built_sends _ _ _) fun r => KubeM.fetchRecord_sends _ r)
  | list =>
    exact Keeps.map _ (Keeps.bind (KubeM.built_sends _ _ _) fun r =>
      Keeps.bind (KubeM.fetch_sends r) fun _ => KubeM.ofExcept_sends _)
  | create o =>
    exact Keeps.map _ (Keeps.bind (KubeM.built_sends _ _ _) fun r => KubeM.fetchRecord_sends _ r)
  | update o =>
    exact Keeps.map _ (Keeps.bind (KubeM.ofExcept_sends _) fun _ =>
      Keeps.bind (KubeM.needName_sends _) fun _ =>
        Keeps.bind (KubeM.built_sends _ _ _) fun r => KubeM.fetchRecord_sends _ r)
  | delete key propagation =>
    exact Keeps.bind (KubeM.needName_sends _) fun _ =>
      Keeps.bind (KubeM.built_sends _ _ _) fun r => Keeps.bind (KubeM.fetch_sends r) fun _ =>
        Keeps.bind (KubeM.ofExcept_sends _) fun _ =>
          Keeps.ite (KubeM.ofExcept_sends _) (Keeps.map _ (KubeM.ofExcept_sends _))

/-- A call on one object finds the collection of its key, then does its part there. -/
theorem run_keyed {c : ClientCall} {key : ResourceKey} (keyed : c.key? = some key) :
    c.run = KubeM.pathFor key >>= c.object := by
  -- Each call on one object is pathFor followed by its part at the collection.
  cases c with
  | list => cases keyed
  | create o | update o =>
    -- Create and update take their key from the object.
    have found : o.key = .ok key := by
      cases h : o.key <;> simp_all [key?, Except.toOption]
    simp [run, object, KubeM.createObject, KubeM.updateObject, found, KubeM.ofExcept, discard_eq_map]
  | delete key' propagation =>
    simp only [key?, Option.some.injEq] at keyed
    subst keyed
    simp only [run, object, KubeM.deleteObject]
    refine bind_congr fun base => bind_congr fun _ => bind_congr fun req => bind_congr fun text => ?_
    -- The answer is read as JSON: a failure to read it is the same failure either way.
    cases Json.parse text <;> rfl
  | _ =>
    simp only [key?, Option.some.injEq] at keyed
    subst keyed
    simp [run, object, KubeM.getObject, KubeM.patchObject, KubeM.patchObjectStatus, discard_eq_map]

/-- A listing resolves its kind, then lists the collection in the namespace given when the kind
is namespaced, and across the cluster otherwise. -/
theorem run_list (group version kind : String) (ns selector : Option String) :
    (ClientCall.list group version kind ns selector).run = KubeM.resolve group version kind >>= fun r =>
      (ClientCall.list group version kind ns selector).object
        (r.path (if r.namespaced then ns else none)) := by
  simp only [run, object, KubeM.listObjects, discard_eq_map, map_bind]
  refine bind_congr fun r => ?_
  -- The listing's path uses the namespace only for a namespaced kind.
  rcases ns with _ | n <;> rcases selector with _ | sel <;> cases r.namespaced <;> simp

/-- A call that uses a kind addresses one object, whose key names the kind, or lists the
kind. -/
theorem kind?_eq_some {c : ClientCall} {g : String × String × String} (uses : c.kind? = some g) :
    (∃ key, c.key? = some key ∧ (key.group, key.version, key.kind) = g) ∨
      ∃ ns selector, c = .list g.1 g.2.1 g.2.2 ns selector := by
  cases c with
  | list group version kind ns selector =>
    simp only [kind?, Option.some.injEq] at uses
    subst uses
    exact .inr ⟨ns, selector, rfl⟩
  | _ =>
    simp only [kind?, Option.map_eq_some_iff] at uses
    exact .inl uses

/-- A call that uses no kind is a create or an update of an object with no key, which fails
before anything is sent. -/
theorem run_of_kind?_eq_none {c : ClientCall} (unused : c.kind? = none) (s : KubeClient) :
    ∃ e, c.run.run s = .error e s := by
  -- Only create and update can use no kind: their object names no key.
  cases c with
  | create o | update o =>
    simp only [kind?, key?, Option.map_eq_none_iff] at unused
    cases keyed : o.key with
    | ok key => simp [keyed, Except.toOption] at unused
    | error e =>
      exact ⟨e, by simp [run, KubeM.createObject, KubeM.updateObject, keyed, KubeM.ofExcept]; rfl⟩
  | _ => simp [kind?, key?] at unused

/-- A call on one object, having resolved its kind, works in the object's namespace of a
namespaced kind, failing first on an empty one, and across the cluster otherwise. -/
theorem run_keyed_of_resolved {c : ClientCall} {key : ResourceKey} (keyed : c.key? = some key)
    {s s₁ : KubeClient} {r : ApiResource}
    (resolved : (KubeM.resolve key.group key.version key.kind).run s = .ok r s₁) :
    c.run.run s =
      if r.namespaced then
        if key.ns.isEmpty then .error (.manifest (key.kind ++ " is namespaced but no namespace was given")) s₁
        else (c.object (r.path (some key.ns))).run s₁
      else (c.object (r.path none)).run s₁ := by
  rw [run_keyed keyed, KubeM.run_pathFor_bind_of_resolved _ resolved]

/-- A listing, having resolved its kind, lists in the namespace given only when the kind is
namespaced. -/
theorem run_list_of_resolved {group version kind : String} {ns selector : Option String}
    {s s₁ : KubeClient} {r : ApiResource} (resolved : (KubeM.resolve group version kind).run s = .ok r s₁) :
    (ClientCall.list group version kind ns selector).run.run s =
      ((ClientCall.list group version kind ns selector).object
        (r.path (if r.namespaced then ns else none))).run s₁ := by
  rw [run_list, EStateM.run_bind, resolved]

/-- A call whose kind does not resolve fails with that failure, and sends nothing more. -/
theorem run_of_failed {c : ClientCall} {g : String × String × String} (uses : c.kind? = some g)
    {s s₁ : KubeClient} {e : Error} (failed : (KubeM.resolve g.1 g.2.1 g.2.2).run s = .error e s₁) :
    c.run.run s = .error e s₁ := by
  -- A call on one object fails in pathFor; a listing fails at its own resolve.
  rcases kind?_eq_some uses with ⟨key, keyed, rfl⟩ | ⟨ns, selector, rfl⟩
  · rw [run_keyed keyed, KubeM.run_pathFor_bind_of_failed _ failed]
  · rw [run_list, EStateM.run_bind, failed]

/-- The client after a call, whatever it answered. -/
def step (c : ClientCall) (s : KubeClient) : KubeClient := endState (c.run.run s)

/-- Runs calls one after another, each from the client the last one left. -/
def runAll (cs : List ClientCall) (s : KubeClient) : KubeClient := cs.foldl (fun s c => c.step s) s

@[simp] theorem runAll_nil (s : KubeClient) : runAll [] s = s := rfl

@[simp] theorem runAll_cons (c : ClientCall) (cs : List ClientCall) (s : KubeClient) :
    runAll (c :: cs) s = runAll cs (c.step s) := rfl

/-- **A call resolves its kind first, and then only sends requests.** -/
theorem sends_of_resolved {c : ClientCall} {g : String × String × String} (uses : c.kind? = some g)
    {s s₁ : KubeClient} {r : ApiResource} (resolved : (KubeM.resolve g.1 g.2.1 g.2.2).run s = .ok r s₁) :
    s₁.Sends (c.step s) := by
  -- The call addresses one object, or lists its kind.
  rcases kind?_eq_some uses with ⟨key, keyed, rfl⟩ | ⟨ns, selector, rfl⟩
  · rw [step, run_keyed_of_resolved keyed resolved]
    -- A refused namespace ends where discovery did; a collection, after the call's part there.
    split
    · split
      · exact refl_of _ s₁
      · exact object_sends _ c s₁
    · exact object_sends _ c s₁
  · rw [step, run_list_of_resolved resolved]
    exact object_sends _ _ s₁

/-- After a call the cache is the cache resolving its kind left. -/
theorem cache_step {c : ClientCall} {g : String × String × String} (uses : c.kind? = some g)
    (s : KubeClient) : (c.step s).cache = (endState ((KubeM.resolve g.1 g.2.1 g.2.2).run s)).cache := by
  -- A resolved kind is followed only by sending; a failed one ends the call.
  cases resolved : (KubeM.resolve g.1 g.2.1 g.2.2).run s with
  | ok r s₁ => exact (sends_of_resolved uses resolved).1
  | error e s₁ => rw [step, run_of_failed uses resolved]; rfl

/-- A call keeps every cached entry. -/
theorem cached_step_of_some {c : ClientCall} {s : KubeClient} {g : String × String × String}
    {r : ApiResource} (held : s.cached g = some r) : (c.step s).cached g = some r := by
  -- A call that uses no kind fails before it touches the cache.
  cases uses : c.kind? with
  | none =>
    obtain ⟨e, failed⟩ := run_of_kind?_eq_none uses s
    rwa [step, failed]
  | some g' =>
    rw [KubeClient.cached_congr (cache_step uses s)]
    exact KubeM.cached_resolve_of_some held

/-- A kind not cached before a call is cached after it exactly when the call uses the kind and
resolving it gave a resource, and then under that resource. -/
theorem cached_step_of_none {c : ClientCall} {s : KubeClient} {g : String × String × String}
    {r : ApiResource} (fresh : s.cached g = none) :
    (c.step s).cached g = some r ↔
      c.kind? = some g ∧ ∃ s₁, (KubeM.resolve g.1 g.2.1 g.2.2).run s = .ok r s₁ := by
  -- A call that uses no kind fails where it started.
  cases uses : c.kind? with
  | none =>
    obtain ⟨e, failed⟩ := run_of_kind?_eq_none uses s
    simp [step, failed, fresh]
  | some g' =>
    rw [KubeClient.cached_congr (cache_step uses s), KubeM.cached_resolve_of_none fresh]
    constructor
    · rintro ⟨rfl, found⟩
      exact ⟨rfl, found⟩
    · rintro ⟨same, found⟩
      cases same
      exact ⟨rfl, found⟩

/-- A kind is left uncached by a call exactly when it was uncached and the call, if it uses the
kind, failed to resolve it. -/
theorem cached_step_eq_none_iff (c : ClientCall) (s : KubeClient) (g : String × String × String) :
    (c.step s).cached g = none ↔ s.cached g = none ∧ (c.kind? = some g → ¬s.Resolves g) := by
  -- A cached kind stays cached; an uncached one turns on the step lemma both ways.
  cases held : s.cached g with
  | some r => simp [cached_step_of_some held]
  | none =>
    simp only [true_and]
    constructor
    · intro stays uses resolves
      obtain ⟨r, s₁, ran⟩ := resolves
      have cachedAfter := (cached_step_of_none held).mpr ⟨uses, s₁, ran⟩
      rw [stays] at cachedAfter
      cases cachedAfter
    · intro failing
      cases after : (c.step s).cached g with
      | none => rfl
      | some r =>
        obtain ⟨uses, s₁, ran⟩ := (cached_step_of_none held).mp after
        exact absurd ⟨r, s₁, ran⟩ (failing uses)

/-- Along a run of calls a cached entry never changes. -/
theorem cached_runAll_of_some (cs : List ClientCall) {s : KubeClient} {g : String × String × String}
    {r : ApiResource} (held : s.cached g = some r) : (runAll cs s).cached g = some r := by
  -- Each call keeps the entry, so the run does.
  induction cs generalizing s with
  | nil => exact held
  | cons c rest ih => exact ih (cached_step_of_some held)

/-- **A kind stays uncached exactly while every use of it failed to resolve it.** The state
each call of a run starts from is the run of the calls before it. -/
theorem cached_runAll_eq_none_iff (cs : List ClientCall) (s : KubeClient) (g : String × String × String) :
    (runAll cs s).cached g = none ↔ s.cached g = none ∧
      ∀ i c, cs[i]? = some c → c.kind? = some g → ¬(runAll (cs.take i) s).Resolves g := by
  induction cs generalizing s with
  | nil => simp
  | cons c rest ih =>
    -- The first call decides the kind from `s`; the later ones start where it left.
    rw [runAll_cons, ih, cached_step_eq_none_iff, and_assoc]
    refine and_congr_right fun _ => ?_
    constructor
    -- The 0-th call is the first; the (i + 1)-th is the i-th of the rest.
    · rintro ⟨first, later⟩ (_ | i) c' found uses
      · cases found
        exact first uses
      · exact later i c' found uses
    · intro each
      exact ⟨each 0 c rfl, fun i c' found uses => each (i + 1) c' found uses⟩

theorem runAll_append (cs cs' : List ClientCall) (s : KubeClient) :
    runAll (cs ++ cs') s = runAll cs' (runAll cs s) := List.foldl_append

/-- The kind is uncached at the `i`-th call of a run exactly when it was uncached at the start
and every use of it among the calls before failed to resolve it. -/
theorem cached_runAll_take_eq_none_iff (cs : List ClientCall) (s : KubeClient) (i : Nat)
    (g : String × String × String) :
    (runAll (cs.take i) s).cached g = none ↔ s.cached g = none ∧
      ∀ j c, j < i → cs[j]? = some c → c.kind? = some g → ¬(runAll (cs.take j) s).Resolves g := by
  -- The calls before the `j`-th call of the first `i` are the first `j` calls of the run.
  have earlierTake {j : Nat} (before : j < i) : (cs.take i).take j = cs.take j := by
    rw [List.take_take, Nat.min_eq_left before.le]
  rw [cached_runAll_eq_none_iff]
  refine and_congr_right fun _ => ⟨fun earlier j c before found uses => ?_,
    fun earlier j c found uses => ?_⟩
  -- A call before the i-th is one of the first i calls.
  · have taken : (cs.take i)[j]? = some c := by rw [List.getElem?_take, if_pos before, found]
    simpa [earlierTake before] using earlier j c taken uses
  -- A call among the first i is a call of the run before the i-th.
  · rw [List.getElem?_take] at found
    split at found
    · rename_i before
      simpa [earlierTake before] using earlier j c before found uses
    · cases found

/-- An entry cached at any call of a run is still cached at its end. -/
theorem cached_runAll_of_take {cs : List ClientCall} {s : KubeClient} {i : Nat}
    {g : String × String × String} {r : ApiResource} (held : (runAll (cs.take i) s).cached g = some r) :
    (runAll cs s).cached g = some r := by
  -- The run is its first i calls and the calls after them, which keep the entry.
  rw [← List.take_append_drop i cs, runAll_append]
  exact cached_runAll_of_some _ held

/-- A call on an uncached kind sends the discovery request before anything else. -/
theorem step_sends_discovery_first {c : ClientCall} {g : String × String × String} (uses : c.kind? = some g)
    {s : KubeClient} (fresh : s.cached g = none) {req : ApiRequest}
    (valid : ApiRequest.ofTarget "GET" (discoveryTarget g.1 g.2.1) none = .ok req) :
    ∃ rest, (c.step s).server.log = s.server.log ++ req :: rest := by
  -- The discovery request goes to the log first.
  have sentLog : (s.sent req).server.log = s.server.log ++ [req] := ApiServer.send_log _ _
  rcases KubeM.resolve_run_fresh fresh valid with ⟨r, ran⟩ | ⟨e, ran⟩
  · -- Discovery found the kind; the call's own requests follow it.
    obtain ⟨rest, grown⟩ := (sends_of_resolved uses ran).2
    exact ⟨rest, by rw [← grown]; simp [sentLog]⟩
  · -- Discovery failed, and the call with it.
    refine ⟨[], ?_⟩
    rw [step, run_of_failed uses ran]
    exact sentLog

/-- **Discovery runs once per kind, and each call addresses the scope of its kind.** Along any run
of calls a kind stays uncached while every use failed to resolve it, and a call on one object works
in its namespace or across the cluster as its kind's scope says. -/
theorem discovers_until_found_and_scopes :
    (∀ (cs : List ClientCall) (s : KubeClient) (i : Nat) (c : ClientCall) (g : String × String × String),
      cs[i]? = some c → c.kind? = some g →
        ((runAll (cs.take i) s).cached g = none ↔ s.cached g = none ∧
          ∀ j c', j < i → cs[j]? = some c' → c'.kind? = some g → ¬(runAll (cs.take j) s).Resolves g) ∧
        (∀ req, (runAll (cs.take i) s).cached g = none →
          ApiRequest.ofTarget "GET" (discoveryTarget g.1 g.2.1) none = .ok req →
          ∃ rest, (c.step (runAll (cs.take i) s)).server.log =
            (runAll (cs.take i) s).server.log ++ req :: rest) ∧
        (∀ e, (runAll (cs.take i) s).cached g = none →
          ApiRequest.ofTarget "GET" (discoveryTarget g.1 g.2.1) none = .error e →
          c.run.run (runAll (cs.take i) s) = .error (.kube (.badUri e.message)) (runAll (cs.take i) s)) ∧
        (∀ r, (runAll (cs.take i) s).cached g = some r →
          (KubeM.resolve g.1 g.2.1 g.2.2).run (runAll (cs.take i) s) = .ok r (runAll (cs.take i) s) ∧
          (runAll cs s).cached g = some r)) ∧
    (∀ (c : ClientCall) (key : ResourceKey) (s s₁ : KubeClient) (r : ApiResource), c.key? = some key →
      (KubeM.resolve key.group key.version key.kind).run s = .ok r s₁ →
        (r.namespaced = true → key.ns = "" →
          c.run.run s = .error (.manifest (key.kind ++ " is namespaced but no namespace was given")) s₁) ∧
        (r.namespaced = true → key.ns ≠ "" → c.run.run s = (c.object (r.path (some key.ns))).run s₁) ∧
        (r.namespaced = false → c.run.run s = (c.object (r.path none)).run s₁)) ∧
    (∀ (group version kind : String) (ns selector : Option String) (s s₁ : KubeClient) (r : ApiResource),
      (KubeM.resolve group version kind).run s = .ok r s₁ →
        (ClientCall.list group version kind ns selector).run.run s =
          ((ClientCall.list group version kind ns selector).object
            (r.path (if r.namespaced then ns else none))).run s₁) := by
  refine ⟨fun cs s i c g found uses => ⟨?_, ?_, ?_, ?_⟩, fun c key s s₁ r keyed resolved => ?_,
    fun _ _ _ _ _ _ _ _ resolved => run_list_of_resolved resolved⟩
  · exact cached_runAll_take_eq_none_iff cs s i g
  · exact fun req fresh valid => step_sends_discovery_first uses fresh valid
  · exact fun e fresh invalid => run_of_failed uses (KubeM.resolve_run_invalid fresh invalid)
  · exact fun r held => ⟨KubeM.resolve_run_cached held, cached_runAll_of_take held⟩
  -- The scope turns on whether the kind is namespaced and the key's namespace empty.
  · rw [run_keyed_of_resolved keyed resolved]
    exact ⟨fun namespaced empty => by simp [namespaced, empty],
      fun namespaced given => by simp [namespaced, given],
      fun clusterWide => by simp [clusterWide]⟩

/-- Where ConfigMaps live, as discovery finds them in the core group. -/
def configMapsResource : ApiResource :=
  { group := "", version := "v1", apiVersion := "v1", kind := "ConfigMap", plural := "configmaps",
    namespaced := true }

/-- A client that has discovered ConfigMaps, over a server with no rules. -/
def configMapsCached : KubeClient :=
  { server := { rules := [] }, cache := [(("", "v1", "ConfigMap"), configMapsResource)] }

/-- A ConfigMap key with no namespace. -/
def bareConfigMapKey : ResourceKey := ⟨"", "v1", "ConfigMap", "", "istio"⟩

/-- The request that discovers the core group's kinds. -/
def coreDiscoveryRequest : ApiRequest := { method := "GET", path := "/api/v1" }

/-- A fresh client's first get of a ConfigMap sends the core group's discovery request before
anything else; once ConfigMaps are cached, a get with no namespace resolves them without a request
and fails for the missing namespace, sending nothing. -/
theorem discovers_until_found_and_scopes_bare_configMap :
    [ClientCall.get bareConfigMapKey][0]? = some (ClientCall.get bareConfigMapKey) ∧
      (ClientCall.get bareConfigMapKey).kind? = some ("", "v1", "ConfigMap") ∧
      (runAll ([ClientCall.get bareConfigMapKey].take 0) { server := { rules := [] } }).cached
        ("", "v1", "ConfigMap") = none ∧
      ApiRequest.ofTarget "GET" (discoveryTarget "" "v1") none = .ok coreDiscoveryRequest ∧
      (∃ rest, ((ClientCall.get bareConfigMapKey).step { server := { rules := [] } }).server.log =
        [coreDiscoveryRequest] ++ rest) ∧
      (ClientCall.get bareConfigMapKey).key? = some bareConfigMapKey ∧
      (KubeM.resolve "" "v1" "ConfigMap").run configMapsCached = .ok configMapsResource configMapsCached ∧
      (ClientCall.get bareConfigMapKey).run.run configMapsCached =
        .error (.manifest (bareConfigMapKey.kind ++ " is namespaced but no namespace was given"))
          configMapsCached := by
  -- Each fact about the fixed calls holds by evaluation.
  have found : [ClientCall.get bareConfigMapKey][0]? = some (ClientCall.get bareConfigMapKey) := rfl
  have uses : (ClientCall.get bareConfigMapKey).kind? = some ("", "v1", "ConfigMap") := rfl
  have fresh : (runAll ([ClientCall.get bareConfigMapKey].take 0) { server := { rules := [] } }).cached
      ("", "v1", "ConfigMap") = none := rfl
  have valid : ApiRequest.ofTarget "GET" (discoveryTarget "" "v1") none = .ok coreDiscoveryRequest := rfl
  have keyed : (ClientCall.get bareConfigMapKey).key? = some bareConfigMapKey := rfl
  have resolved : (KubeM.resolve "" "v1" "ConfigMap").run configMapsCached =
      .ok configMapsResource configMapsCached := rfl
  -- The fresh client discovers first; the cached one refuses the bare key.
  obtain ⟨_, sent, _, _⟩ := discovers_until_found_and_scopes.1 _ _ 0 _ _ found uses
  obtain ⟨refused, _, _⟩ := discovers_until_found_and_scopes.2.1 _ _ _ _ _ keyed resolved
  exact ⟨found, uses, fresh, valid, sent _ fresh valid, keyed, resolved, refused rfl rfl⟩

end ClientCall

end MeshControl
