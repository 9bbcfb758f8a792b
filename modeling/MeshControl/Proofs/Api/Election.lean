import MeshControl.Api.Lease
import MeshControl.Proofs.Resource.Decode
import MeshControl.Proofs.Patch.Frame
import MeshControl.Proofs.Api.Discovery

/-! Leader election among replicas that share one lease: a round that leads leaves its own lease
where its write lands on the lease it read, but overlapping rounds can both lead. -/

namespace MeshControl

/-- The holder a stored lease names. -/
def leaseHolder (lease : Json) : Option String :=
  (lease.get? "spec").bind fun spec => (spec.get? "holderIdentity").bind Json.str?

/-! The holder a replica reads. -/

theorem optionalField_str {spec : Json} {k : String} {v : Option String}
    (read : optionalField spec k Json.str? = .ok v) : v = (spec.get? k).bind Json.str? := by
  unfold optionalField at read
  -- An absent or null field reads as none; a text reads as itself; anything else fails.
  split at read
  · cases read
    rename_i absent
    simp [absent]
  · cases read
    rename_i isNull
    simp [isNull, Json.str?]
  · split at read
    · cases read
      rename_i found _ _ text
      simp [found, text]
    · cases read

theorem LeaseSpec.ofJson_holder {spec : Json} {s : LeaseSpec} (read : LeaseSpec.ofJson spec = .ok s) :
    s.holder = (spec.get? "holderIdentity").bind Json.str? := by
  unfold LeaseSpec.ofJson at read
  split at read
  · -- Four fields are only checked; the holder is the first of the three the spec keeps.
    obtain ⟨_, -, read⟩ := Except.bind_eq_ok.mp read
    obtain ⟨_, -, read⟩ := Except.bind_eq_ok.mp read
    obtain ⟨_, -, read⟩ := Except.bind_eq_ok.mp read
    obtain ⟨_, -, read⟩ := Except.bind_eq_ok.mp read
    obtain ⟨holder, found, read⟩ := Except.bind_eq_ok.mp read
    obtain ⟨_, -, read⟩ := Except.bind_eq_ok.mp read
    obtain ⟨_, -, read⟩ := Except.bind_eq_ok.mp read
    cases read
    exact optionalField_str found
  · cases read

/-- A lease that reads names, as holder, the holder the replica reads from it. -/
theorem leaseOf_holder {j : Json} {spec : Option LeaseSpec} (read : leaseOf j = .ok spec) :
    spec.bind (·.holder) = leaseHolder j := by
  obtain ⟨_, -, read⟩ := Except.bind_eq_ok.mp read
  -- No spec, a null spec, or a spec that reads and names the holder.
  split at read
  · rename_i missing
    cases read
    simp [leaseHolder, missing]
  · rename_i isNull
    cases read
    simp only [leaseHolder, isNull, Option.bind_some]
    rfl
  · rename_i _ s _ found
    obtain ⟨sp, reads, same⟩ := Except.map_eq_ok.mp read
    subst same
    simp [leaseHolder, found, LeaseSpec.ofJson_holder reads]

/-! The holder after a write. -/

theorem newLease_eq (ns identity stamp : String) :
    newLease ns identity stamp = .obj [("apiVersion", .str "coordination.k8s.io/v1"), ("kind", .str "Lease"),
      ("metadata", .obj [("name", .str leaseName), ("namespace", .str ns)]),
      ("spec", .obj [("acquireTime", .str stamp), ("holderIdentity", .str identity),
        ("leaseDurationSeconds", Json.int leaseDurationSecs), ("renewTime", .str stamp)])] := rfl

theorem leaseHolder_newLease (ns identity stamp : String) :
    leaseHolder (newLease ns identity stamp) = some identity := by
  rw [newLease_eq]
  rfl

/-- The holder after a merge patch of a lease's spec: the holder of the merged spec fields. -/
theorem leaseHolder_mergePatch_spec (lease : Json) (ps : Fields) :
    leaseHolder (lease.mergePatch (.obj [("spec", .obj ps)])) =
      ((Json.mergeFields (((lease.get? "spec").getD .null).fields?.getD []) ps).get? "holderIdentity").bind
        Json.str? := by
  -- Only the spec is merged, into the old spec's fields.
  rw [mergePatch_obj, Json.mergeFields_cons, Json.get?_eq_fieldsD lease]
  simp [leaseHolder, Json.mergeEntry, Json.mergeFields, mergePatch_obj]

/-- A patch of a lease's spec that does not name the holder leaves the holder. -/
theorem leaseHolder_mergePatch_keeps (lease : Json) {ps : Fields} (absent : "holderIdentity" ∉ ps.keys) :
    leaseHolder (lease.mergePatch (.obj [("spec", .obj ps)])) = leaseHolder lease := by
  rw [leaseHolder_mergePatch_spec, Json.get?_mergeFields_of_not_mem _ absent, ← Json.get?_eq_fieldsD]
  simp only [leaseHolder]
  -- Without a spec both sides read no holder.
  cases lease.get? "spec" <;> rfl

/-- A renewal leaves the holder of whatever lease it lands on. -/
theorem leaseHolder_renewal (lease : Json) (stamp : String) :
    leaseHolder (lease.mergePatch (renewalPatch stamp)) = leaseHolder lease := by
  have shape : renewalPatch stamp = .obj [("spec", .obj [("leaseDurationSeconds", Json.int leaseDurationSecs),
      ("renewTime", .str stamp)])] := rfl
  rw [shape]
  -- A renewal writes the duration and the renewal time only.
  exact leaseHolder_mergePatch_keeps lease (by simp [Fields.keys])

/-- A takeover makes its replica the holder of whatever lease it lands on. -/
theorem leaseHolder_takeover (lease : Json) (identity stamp : String) :
    leaseHolder (lease.mergePatch (takeoverPatch identity stamp)) = some identity := by
  have shape : takeoverPatch identity stamp = .obj [("spec", .obj [("acquireTime", .str stamp),
      ("holderIdentity", .str identity), ("leaseDurationSeconds", Json.int leaseDurationSecs),
      ("renewTime", .str stamp)])] := rfl
  -- The holder is the one entry of the takeover read back.
  rw [shape, leaseHolder_mergePatch_spec, Json.mergeFields_cons, Json.mergeFields_cons,
    Json.get?_mergeFields_of_not_mem _ (by simp [Fields.keys])]
  simp [Json.mergeEntry, Json.mergePatch, Json.str?]

/-! Rounds against the API server. -/

/-- The lease an API server holds once a write lands on the lease `current`, or none when it
refuses the write: a create succeeds only where there is no lease, and a merge patch applies
to the stored lease whatever version the round read. -/
def LeaseWrite.landOn : LeaseWrite → Option Json → Option Json
  | .create lease, none => some lease
  | .create _, some _ => none
  | .patch p, some current => some (current.mergePatch p)
  | .patch _, none => none

/-- A round of a replica whose read saw the lease `read` and whose write landed on the lease
`current`: whether it reports leadership, and the lease the server then holds. A refused
write fails the round, and so does an answer that does not read as a lease. -/
def roundOutcome (ns identity stamp : String) (now : Time) (read current : Option Json) :
    Except String (Bool × Option Json) :=
  match roundWrite ns identity stamp now read with
  | .error m => .error m
  | .ok none => .ok (false, current)
  | .ok (some w) =>
    match w.landOn current with
    | none => .error "refused"
    | some lease => (leaseOf lease).map fun _ => (true, some lease)

/-! The election round against an API server holding the lease. -/

/-- Characters that stand in a path end neither the path nor the target. -/
theorem pathChar_continues {c : Char} (inPath : pathChar c = true) : (c != '?' && c != '#') = true := by
  -- Neither a question mark nor a hash is a path character.
  by_cases query : c = '?'
  · subst query
    exact absurd inPath (by decide)
  · by_cases fragment : c = '#'
    · subst fragment
      exact absurd inPath (by decide)
    · simp [query, fragment]

/-- A target of path characters only is a request for that path, with no query. -/
theorem ApiRequest.ofTarget_path {method target : String} {body : Option String}
    (fits : target.utf8ByteSize ≤ 65534) (chars : target.toList.all pathChar = true) :
    ApiRequest.ofTarget method target body = .ok { method, path := target, body } := by
  -- No character of the target ends the path.
  have whole : target.toList.takeWhile (fun c => c != '?' && c != '#') = target.toList :=
    List.takeWhile_eq_self_iff.mpr fun c mem => pathChar_continues (List.all_eq_true.mp chars c mem)
  unfold ApiRequest.ofTarget
  simp [whole, chars, String.ofList_toList]
  omega

/-- A target of path characters and a bare `?` is a request for that path with an empty query. -/
theorem ApiRequest.ofTarget_path_query {method target : String} {body : Option String}
    (fits : target.utf8ByteSize < 65534) (chars : target.toList.all pathChar = true) :
    ApiRequest.ofTarget method (target ++ "?") body = .ok { method, path := target, query := "", body } := by
  -- The path ends at the appended question mark.
  have upTo : (target.toList ++ ['?']).takeWhile (fun c => c != '?' && c != '#') = target.toList := by
    rw [List.takeWhile_append_of_pos fun c mem => pathChar_continues (List.all_eq_true.mp chars c mem)]
    simp
  unfold ApiRequest.ofTarget
  have mark : "?".utf8ByteSize = 1 := by decide
  simp [String.toList_append, upTo, chars, String.ofList_toList]
  omega

/-- The answer of an API server to a read of a lease that is not there. -/
def leaseNotFound : String :=
  (Json.mkObj [("kind", .str "Status"), ("apiVersion", .str "v1"), ("status", .str "Failure"),
    ("message", .str "leases.coordination.k8s.io \"mesh-operator-leader\" not found"),
    ("reason", .str "NotFound"), ("code", Json.int 404)]).render

/-- The rules of an API server for one round on a namespace's lease: a read answers the text
`read` of the stored lease, or not found where there is none; a create or a merge patch answers
the text `written` of the lease it leaves, or a conflict where it is refused. -/
def leaseRules (ns : String) (read written : Option String) : List Rule :=
  [{ method := some "GET", path := some (leasesPath ns ++ "/" ++ leaseName),
     status := if read.isSome then 200 else 404, body := read.getD leaseNotFound },
   { method := some "POST", path := some (leasesPath ns),
     status := if written.isSome then 200 else 409, body := written.getD "" },
   { method := some "PATCH", path := some (leasesPath ns ++ "/" ++ leaseName),
     status := if written.isSome then 200 else 409, body := written.getD "" }]

/-- A client of the API server of `leaseRules`, before any request. -/
def leaseClient (ns : String) (read written : Option String) : KubeClient :=
  { server := { rules := leaseRules ns read written } }

/-- Whether a text is what an API server answers for a lease: nothing where there is no lease,
and text that reads as the lease where there is one. -/
def Serves (text : Option String) (lease : Option Json) : Prop :=
  text.map Json.parse = lease.map .ok

/-- Text that reads as a lease without doubles, checked by `Json.beq`, serves it. -/
theorem Serves.of_beq {text : String} {j : Json} (flat : j.floatFree = true)
    (same : (Json.parse text).toOption.map (·.beq j) = some true) : Serves (some text) (some j) := by
  -- Text that reads, and equals the lease without doubles, is the lease.
  cases parsed : Json.parse text with
  | error e => simp [parsed, Except.toOption] at same
  | ok j' =>
    simp only [parsed, Except.toOption, Option.map_some, Option.some.injEq] at same
    simp [Serves, parsed, Json.eq_of_beq flat same]

section
variable (ns : String) (read written : Option String) (log : List ApiRequest)

theorem send_lease_get :
    ApiServer.send { rules := leaseRules ns read written, log } { method := "GET", path := leasesPath ns ++ "/" ++ leaseName } =
      ({ status := if read.isSome then 200 else 404, body := read.getD leaseNotFound },
        { rules := leaseRules ns read written, log := log ++ [{ method := "GET", path := leasesPath ns ++ "/" ++ leaseName }] }) := by
  simp [ApiServer.send, ApiServer.send.pick, Rule.matches, leaseRules]

theorem send_lease_post (body : Option String) :
    ApiServer.send { rules := leaseRules ns read written, log } { method := "POST", path := leasesPath ns, query := "", body } =
      ({ status := if written.isSome then 200 else 409, body := written.getD "" },
        { rules := leaseRules ns read written, log := log ++ [{ method := "POST", path := leasesPath ns, query := "", body }] }) := by
  simp [ApiServer.send, ApiServer.send.pick, Rule.matches, leaseRules]

theorem send_lease_patch (body : Option String) :
    ApiServer.send { rules := leaseRules ns read written, log }
        { method := "PATCH", path := leasesPath ns ++ "/" ++ leaseName, query := "", body } =
      ({ status := if written.isSome then 200 else 409, body := written.getD "" },
        { rules := leaseRules ns read written,
          log := log ++ [{ method := "PATCH", path := leasesPath ns ++ "/" ++ leaseName, query := "", body }] }) := by
  simp [ApiServer.send, ApiServer.send.pick, Rule.matches, leaseRules]

end

namespace KubeM

/-- Sending a request reads the answer as JSON, from the client that sent it. -/
theorem run_send (r : ApiRequest) (c : KubeClient) :
    (send r).run c = (ofExcept (readResponse (c.server.send r).1)).run (c.sent r) := by
  simp only [send, EStateM.run_bind, run_fetch, readResponse]
  -- A failed answer, text that does not parse, or a value read.
  cases responseText (c.server.send r).1 with
  | error e => rfl
  | ok text =>
    simp only [run_ofExcept_ok]
    cases parsed : Json.parse text with
    | error e =>
      simp only [parsed, bind, Except.bind]
      rfl
    | ok j => simp [parsed, bind, Except.bind]

end KubeM

/-- Sending a lease write reads the answer as a lease, from the client that sent it. -/
theorem run_sendLease (r : ApiRequest) (c : KubeClient) :
    (sendLease r).run c = (KubeM.ofExcept ((readResponse (c.server.send r).1).bind fun j =>
      ((leaseOf j).mapError fun m => .kube (.badBody m)).map fun _ => ())).run (c.sent r) := by
  simp only [sendLease, EStateM.run_bind, KubeM.run_send]
  cases readResponse (c.server.send r).1 with
  | error e => rfl
  | ok j =>
    simp only [KubeM.run_ofExcept_ok]
    -- An answer that is not a lease fails; a lease is read and its value dropped.
    cases read : leaseOf j with
    | error m =>
      simp only [read, Except.bind]
      rfl
    | ok spec =>
      simp only [read, Except.bind]
      rfl

theorem readResponse_ok {text : String} {j : Json} (reads : Json.parse text = .ok j) :
    readResponse { status := 200, body := text } = .ok j := by
  simp [readResponse, responseText, bind, Except.bind, reads]

/-- An error status fails the read, with the code of the status in the body, if it has one,
and the HTTP code otherwise. -/
theorem readResponse_error (status : Nat) (failed : 400 ≤ status ∧ status < 600) (body : String) :
    ∃ e, readResponse { status, body } = .error e ∧
      e.apiCode? = (errorStatusOf body).elim (some status) ApiFailure.code? := by
  -- An error status is never read as a value.
  simp only [readResponse, responseText, failed, decide_true, Bool.and_self, if_true]
  cases errorStatusOf body <;> exact ⟨_, rfl, rfl⟩

theorem leaseNotFound_code : (errorStatusOf leaseNotFound).elim (some 404) ApiFailure.code? = some 404 := by
  decide +kernel

/-- The lease's collection and the lease itself have paths a request may name as they are. -/
theorem leasesPath_fits {ns : String} (chars : ns.toList.all pathChar = true) (short : ns.utf8ByteSize ≤ 60000) :
    ((leasesPath ns).toList.all pathChar = true ∧ (leasesPath ns).utf8ByteSize < 65534) ∧
      ((leasesPath ns ++ "/" ++ leaseName).toList.all pathChar = true ∧
        (leasesPath ns ++ "/" ++ leaseName).utf8ByteSize < 65534) := by
  -- The fixed parts are checked once; only the namespace varies. Plain rewriting keeps the
  -- literals from being unfolded on the way.
  have prefixLength : "/apis/coordination.k8s.io/v1/namespaces/".utf8ByteSize = 40 := by decide +kernel
  have suffixLength : "/leases".utf8ByteSize = 7 := by decide +kernel
  have nameLength : "/".utf8ByteSize + leaseName.utf8ByteSize = 21 := by decide +kernel
  have collectionChars : (leasesPath ns).toList.all pathChar = true := by
    unfold leasesPath
    rewrite [String.toList_append, String.toList_append, List.all_append, List.all_append, chars]
    decide +kernel
  have collectionLength : (leasesPath ns).utf8ByteSize = ns.utf8ByteSize + 47 := by
    unfold leasesPath
    rewrite [String.utf8ByteSize_append, String.utf8ByteSize_append]
    omega
  refine ⟨⟨collectionChars, by omega⟩, ?_, ?_⟩
  · rewrite [String.toList_append, String.toList_append, List.all_append, List.all_append, collectionChars]
    decide +kernel
  · rewrite [String.utf8ByteSize_append, String.utf8ByteSize_append, collectionLength]
    omega

/-- A round that read a lease patches it, if it writes at all. -/
theorem roundWrite_some_patches {ns identity stamp : String} {now : Time} {j : Json} {w : LeaseWrite}
    (wrote : roundWrite ns identity stamp now (some j) = .ok (some w)) : ∃ p, w = .patch p := by
  -- A round that read a lease writes only a patch of it.
  obtain ⟨spec, -, chosen⟩ := Except.map_eq_ok.mp wrote
  obtain ⟨p, -, rfl⟩ := Option.map_eq_some_iff.mp chosen
  exact ⟨p, rfl⟩

/-- Against an API server that answers the read with the lease `read` and the write with the lease
it lands as on `current`, the election round leads exactly as `roundOutcome` says, and fails
where it fails. -/
theorem electionRound_run'_eq {ns identity stamp : String} {now : Time} {read current : Option Json}
    {readText writtenText : Option String} (chars : ns.toList.all pathChar = true) (short : ns.utf8ByteSize ≤ 60000)
    (servesRead : Serves readText read)
    (servesWrite : ∀ w, roundWrite ns identity stamp now read = .ok (some w) → Serves writtenText (w.landOn current)) :
    (electionRound ns identity stamp now).run' (leaseClient ns readText writtenText) =
      (roundOutcome ns identity stamp now read current).toOption.map (·.1) := by
  obtain ⟨⟨collectionChars, collectionShort⟩, leaseChars, leaseShort⟩ := leasesPath_fits chars short
  unfold electionRound roundOutcome
  simp only [EStateM.run', EStateM.run_bind, run_tryCatch, run_map, KubeM.built,
    KubeM.run_requestTo_ok (ApiRequest.ofTarget_path (Nat.le_of_lt leaseShort) leaseChars),
    KubeM.run_send, leaseClient, KubeClient.sent, send_lease_get]
  -- The read: a lease that is not there is answered not found, which the round takes as none.
  cases read with
  | none =>
    have absent : readText = none := Option.map_eq_none_iff.mp servesRead
    subst absent
    obtain ⟨e, refused, code⟩ := readResponse_error 404 ⟨by decide, by decide⟩ leaseNotFound
    simp only [Option.isSome_none, Option.getD_none, Bool.false_eq_true, if_false, refused,
      KubeM.run_ofExcept_error, code, leaseNotFound_code, beq_self_eq_true, if_true, EStateM.run_pure,
      roundWrite, EStateM.run_bind, KubeM.run_requestTo_ok (ApiRequest.ofTarget_path_query collectionShort collectionChars),
      run_sendLease, KubeClient.sent, send_lease_post]
    -- With no lease read, the round creates one, which lands only where there is none.
    have servesCreate := servesWrite _ rfl
    cases current with
    | none =>
      obtain ⟨text, rfl, reads⟩ := Option.map_eq_some_iff.mp servesCreate
      simp only [Option.isSome_some, Option.getD_some, if_true, readResponse_ok reads, LeaseWrite.landOn,
        Except.bind]
      cases leaseOf (newLease ns identity stamp) <;> rfl
    | some stored =>
      have refusedWrite : writtenText = none := Option.map_eq_none_iff.mp servesCreate
      subst refusedWrite
      obtain ⟨e', failed, -⟩ := readResponse_error 409 ⟨by decide, by decide⟩ ""
      simp only [Option.isSome_none, Option.getD_none, Bool.false_eq_true, if_false, failed, LeaseWrite.landOn]
      rfl
  | some j =>
    obtain ⟨text, rfl, reads⟩ := Option.map_eq_some_iff.mp servesRead
    simp only [Option.isSome_some, Option.getD_some, if_true, readResponse_ok reads, KubeM.run_ofExcept_ok]
    -- A lease read is one that does not read, one left alone, or one patched.
    cases written : roundWrite ns identity stamp now (some j) with
    | error m => rfl
    | ok w =>
      cases w with
      | none => rfl
      | some w =>
        obtain ⟨p, rfl⟩ := roundWrite_some_patches written
        have servesPatch := servesWrite _ written
        simp only [EStateM.run_bind, KubeM.run_requestTo_ok (ApiRequest.ofTarget_path_query leaseShort leaseChars),
          run_sendLease, KubeClient.sent, send_lease_patch]
        -- The patch lands on whatever lease the server holds, and is refused where it holds none.
        cases current with
        | none =>
          have refusedWrite : writtenText = none := Option.map_eq_none_iff.mp servesPatch
          subst refusedWrite
          obtain ⟨e', failed, -⟩ := readResponse_error 409 ⟨by decide, by decide⟩ ""
          simp only [Option.isSome_none, Option.getD_none, Bool.false_eq_true, if_false, failed, LeaseWrite.landOn]
          rfl
        | some stored =>
          obtain ⟨text', rfl, reads'⟩ := Option.map_eq_some_iff.mp servesPatch
          simp only [Option.isSome_some, Option.getD_some, if_true, readResponse_ok reads', LeaseWrite.landOn,
            Except.bind]
          cases leaseOf (stored.mergePatch p) <;> rfl

/-- A round that leads, with its write landed on the lease it read, holds the lease: it created
the lease, renewed a lease that named it, or took an expired lease over. -/
theorem roundOutcome_own_holder {ns identity stamp : String} {now : Time} {lease after : Option Json}
    (led : roundOutcome ns identity stamp now lease lease = .ok (true, after)) :
    ∃ held, after = some held ∧ leaseHolder held = some identity := by
  unfold roundOutcome at led
  -- A round that fails or writes nothing does not report leadership.
  split at led
  · cases led
  · cases led
  · rename_i w wrote
    split at led
    · cases led
    · rename_i held landed
      obtain ⟨_, -, same⟩ := Except.map_eq_ok.mp led
      cases same
      refine ⟨held, rfl, ?_⟩
      -- With no lease read the round created its own.
      cases lease with
      | none =>
        cases wrote
        cases landed
        exact leaseHolder_newLease ns identity stamp
      | some read =>
        obtain ⟨spec, readOk, patched⟩ := Except.map_eq_ok.mp wrote
        obtain ⟨p, chosen, rfl⟩ := Option.map_eq_some_iff.mp patched
        cases landed
        unfold leasePatch at chosen
        split at chosen
        · -- A renewal: the lease read named this replica, and the patch keeps the holder.
          rename_i named
          cases chosen
          rw [leaseHolder_renewal, ← leaseOf_holder readOk]
          simpa using named
        -- A takeover names this replica; anything else writes nothing.
        · split at chosen
          · cases chosen
            exact leaseHolder_takeover read identity stamp
          · cases chosen

/-- The lease a round that leads leaves is where its write landed. -/
theorem roundOutcome_landed {ns identity stamp : String} {now : Time} {read current after : Option Json}
    (led : roundOutcome ns identity stamp now read current = .ok (true, after)) {w : LeaseWrite}
    (wrote : roundWrite ns identity stamp now read = .ok (some w)) : w.landOn current = after := by
  unfold roundOutcome at led
  rw [wrote] at led
  -- A refused write fails the round.
  cases landed : w.landOn current with
  | none => simp [landed] at led
  | some lease =>
    simp only [landed] at led
    obtain ⟨_, -, same⟩ := Except.map_eq_ok.mp led
    cases same
    rfl

/-- A round that reports leadership, and whose write landed on the lease it read, leaves the
lease held by itself; the election round, answered so by the API server, leads too. -/
theorem roundOutcome_leaves_own_lease {ns identity stamp : String} {now : Time} {lease after : Option Json}
    (led : roundOutcome ns identity stamp now lease lease = .ok (true, after)) :
    ∃ held, after = some held ∧ leaseHolder held = some identity ∧
      ∀ readText writtenText, ns.toList.all pathChar = true → ns.utf8ByteSize ≤ 60000 →
        Serves readText lease → Serves writtenText after →
        (electionRound ns identity stamp now).run' (leaseClient ns readText writtenText) = some true := by
  obtain ⟨held, rfl, own⟩ := roundOutcome_own_holder led
  refine ⟨held, rfl, own, fun readText writtenText chars short servesRead servesWrite => ?_⟩
  -- The server answers the one write the round makes with the lease that write leaves.
  have servesLanded : ∀ w, roundWrite ns identity stamp now lease = .ok (some w) →
      Serves writtenText (w.landOn lease) := by
    intro w wrote
    rw [roundOutcome_landed led wrote]
    exact servesWrite
  rw [electionRound_run'_eq chars short servesRead servesLanded, led]
  rfl

/-- A lease held by a replica and renewed at an instant, as the API server keeps it. -/
def heldLease (ns holder renew : String) : Json :=
  .mkObj [("apiVersion", .str "coordination.k8s.io/v1"), ("kind", .str "Lease"),
    ("metadata", .mkObj [("name", .str leaseName), ("namespace", .str ns)]),
    ("spec", .mkObj [("holderIdentity", .str holder), ("leaseDurationSeconds", Json.int leaseDurationSecs),
      ("renewTime", .str renew)])]

/-- A replica that finds another's lease expired takes it over and holds it, and its election
round, answered with the lease's texts, leads. -/
theorem roundOutcome_takeover_leaves_own_lease :
    roundOutcome "istio-operator" "replica-b" "2999-01-01T00:00:20Z" ⟨32472144020, 0⟩
        (some (heldLease "istio-operator" "replica-a" "2999-01-01T00:00:00Z"))
        (some (heldLease "istio-operator" "replica-a" "2999-01-01T00:00:00Z")) =
      .ok (true, some ((heldLease "istio-operator" "replica-a" "2999-01-01T00:00:00Z").mergePatch
        (takeoverPatch "replica-b" "2999-01-01T00:00:20Z"))) ∧
    ∃ held, some ((heldLease "istio-operator" "replica-a" "2999-01-01T00:00:00Z").mergePatch
        (takeoverPatch "replica-b" "2999-01-01T00:00:20Z")) = some held ∧
      leaseHolder held = some "replica-b" ∧
      (electionRound "istio-operator" "replica-b" "2999-01-01T00:00:20Z" ⟨32472144020, 0⟩).run'
          (leaseClient "istio-operator" (some (heldLease "istio-operator" "replica-a" "2999-01-01T00:00:00Z").render)
            (some ((heldLease "istio-operator" "replica-a" "2999-01-01T00:00:00Z").mergePatch
              (takeoverPatch "replica-b" "2999-01-01T00:00:20Z")).render)) = some true := by
  have led : roundOutcome "istio-operator" "replica-b" "2999-01-01T00:00:20Z" ⟨32472144020, 0⟩
      (some (heldLease "istio-operator" "replica-a" "2999-01-01T00:00:00Z"))
      (some (heldLease "istio-operator" "replica-a" "2999-01-01T00:00:00Z")) =
      .ok (true, some ((heldLease "istio-operator" "replica-a" "2999-01-01T00:00:00Z").mergePatch
        (takeoverPatch "replica-b" "2999-01-01T00:00:20Z"))) := rfl
  obtain ⟨held, same, own, leads⟩ := roundOutcome_leaves_own_lease led
  cases same
  -- Both leases read back from their texts.
  exact ⟨led, _, rfl, own, leads _ _ (by decide +kernel) (by decide +kernel)
    (Serves.of_beq (by decide +kernel) (by decide +kernel)) (Serves.of_beq (by decide +kernel) (by decide +kernel))⟩

/-! Two rounds that overlap. -/

/-- A scripted API server that answers the read of a namespace's lease with `read` and a patch
of it with `patched`. -/
def leaseScript (ns : String) (read patched : Json) : KubeClient :=
  let path := leasesPath ns ++ "/" ++ leaseName
  { server := { rules := [{ method := some "GET", path := some path, body := read.render },
                         { method := some "PATCH", path := some path, body := patched.render }] } }

/-- Two replicas read replica-a's lease before either writes. Replica-b, whose clock is past the
lease's end, takes it over; replica-a, which still reads itself as holder, then renews the
lease replica-b now holds. Both rounds report leadership, the lease names replica-b, and the
election round itself, answered so, reports replica-a as leader. -/
theorem overlapping_rounds_both_lead :
    roundOutcome "istio-operator" "replica-b" "2999-01-01T00:00:20Z" ⟨32472144020, 0⟩
        (some (heldLease "istio-operator" "replica-a" "2999-01-01T00:00:00Z"))
        (some (heldLease "istio-operator" "replica-a" "2999-01-01T00:00:00Z")) =
      .ok (true, some ((heldLease "istio-operator" "replica-a" "2999-01-01T00:00:00Z").mergePatch
        (takeoverPatch "replica-b" "2999-01-01T00:00:20Z"))) ∧
    roundOutcome "istio-operator" "replica-a" "2999-01-01T00:00:05Z" ⟨32472144005, 0⟩
        (some (heldLease "istio-operator" "replica-a" "2999-01-01T00:00:00Z"))
        (some ((heldLease "istio-operator" "replica-a" "2999-01-01T00:00:00Z").mergePatch
          (takeoverPatch "replica-b" "2999-01-01T00:00:20Z"))) =
      .ok (true, some (((heldLease "istio-operator" "replica-a" "2999-01-01T00:00:00Z").mergePatch
        (takeoverPatch "replica-b" "2999-01-01T00:00:20Z")).mergePatch (renewalPatch "2999-01-01T00:00:05Z"))) ∧
    leaseHolder (((heldLease "istio-operator" "replica-a" "2999-01-01T00:00:00Z").mergePatch
        (takeoverPatch "replica-b" "2999-01-01T00:00:20Z")).mergePatch (renewalPatch "2999-01-01T00:00:05Z")) =
      some "replica-b" ∧
    (electionRound "istio-operator" "replica-a" "2999-01-01T00:00:05Z" ⟨32472144005, 0⟩).run'
        (leaseScript "istio-operator" (heldLease "istio-operator" "replica-a" "2999-01-01T00:00:00Z")
          (((heldLease "istio-operator" "replica-a" "2999-01-01T00:00:00Z").mergePatch
            (takeoverPatch "replica-b" "2999-01-01T00:00:20Z")).mergePatch (renewalPatch "2999-01-01T00:00:05Z"))) =
      some true := by
  -- Both rounds are computed; the renewal keeps replica-b as holder.
  refine ⟨rfl, rfl, ?_, by decide +kernel⟩
  rw [leaseHolder_renewal, leaseHolder_takeover]

end MeshControl
