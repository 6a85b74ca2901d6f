import FleetOperator.Proofs.Gateway.Inspected
import FleetOperator.Proofs.Gateway.VersionBlind

/-!
# Clients that keep to themselves

Each of several clients has a territory: places for objects that it alone
looks at and writes to, secrets that it reads, and secrets that it writes.
Where the territories are apart and every client looks before it writes, each
client finds the places of its territory as it last saw them
(`orderly_after`), so no write of it is refused.

Then a client can be followed in two runs at once, in one next to the others
and in one alone. A turn of another client changes nothing in its territory,
and its own turns have the same answers and the same effects in both runs,
apart from resource versions, which the cluster gives out to all. By induction
over the turns the two runs look the same to the client (`mirrors_after`).
-/

namespace FleetOperator

open SimulatedCluster

/-! ## Territories -/

/-- What a client has to do with. -/
structure Territory where
  /-- The places of its objects. -/
  owns : ObjectKey → Prop
  /-- The secrets that it reads. -/
  reads : ObjectKey → Prop
  /-- The secrets that it writes. -/
  writes : ObjectKey → Prop

/-- The second client writes nothing that the first one has to do with. -/
structure Territory.Apart (territory other : Territory) : Prop where
  owns : ∀ key, territory.owns key → ¬ other.owns key
  reads : ∀ key, territory.reads key → ¬ other.writes key
  writes : ∀ key, territory.writes key → ¬ other.writes key

/-- A call within a territory. -/
def GatewayCall.Within (territory : Territory) : GatewayCall → Prop
  | .applyProperties owner ns account properties => ∀ secret,
      secretToApply? owner ns account properties = some secret →
      territory.writes ⟨secret.ns, secret.name⟩
  | .readSecret ns name => territory.reads ⟨ns, name⟩
  | .serverVersion => True
  | .get ns name => territory.owns ⟨ns, name⟩
  | .create workload => territory.owns workload.key
  | .update workload => territory.owns workload.key
  | .delete workload => territory.owns workload.key

/-- What becomes of a secret that is applied depends on nothing but what it was before. -/
def SecretServer.Local (server : SecretServer) : Prop :=
  ∀ (secret : Secret) (secrets others : SortedMap ObjectKey SecretData),
    secrets.get? ⟨secret.ns, secret.name⟩ = others.get? ⟨secret.ns, secret.name⟩ →
    (server.apply secret secrets).get? ⟨secret.ns, secret.name⟩ =
      (server.apply secret others).get? ⟨secret.ns, secret.name⟩

namespace SimulatedCluster

variable {server : SecretServer} {call call' : GatewayCall} {territory : Territory}
  {cluster other : SimulatedCluster}

theorem secrets_served : (cluster.served server call).secrets =
    match call.secret? with
    | none => cluster.secrets
    | some secret => server.apply secret cluster.secrets := by
  have hserve : (cluster.serve call).2.secrets = cluster.secrets := by cases call <;> rfl
  unfold served
  cases call.secret? with
  | none => exact hserve
  | some secret => exact congrArg (server.apply secret) hserve

/-! ### Outside of a territory -/

theorem stored?_within {workload : StatefulSet} (hwithin : call.Within territory)
    (hstored : call.stored? = some workload) : territory.owns workload.key := by
  cases call with
  | create stored | update stored =>
      obtain rfl := Option.some.inj hstored
      exact hwithin
  | applyProperties | readSecret | serverVersion | get | delete => cases hstored

theorem get?_answerGuarded_of_not_owns (hwithin : call.Within territory) {key : ObjectKey}
    (hkey : ¬ territory.owns key) (fault? : Option OperatorError) :
    (answerGuarded server fault? call cluster).2.objects.get? key =
      cluster.objects.get? key := by
  cases placeStep_answerGuarded server fault? call cluster key with
  | kept hslot => exact hslot
  | written hcall hsame => exact absurd (hsame ▸ stored?_within hwithin hcall) hkey
  | removed hcall hsame =>
      rw [hcall] at hwithin
      exact absurd (hsame ▸ hwithin) hkey

theorem secrets_answerGuarded_of_not_writes (hwithin : call.Within territory) {key : ObjectKey}
    (hkey : ¬ territory.writes key) (fault? : Option OperatorError) :
    (answerGuarded server fault? call cluster).2.secrets.get? key =
      cluster.secrets.get? key := by
  rcases answerGuarded_cases server fault? call cluster with ⟨e, hanswer⟩ | ⟨-, hanswer⟩
  · rw [hanswer]
  · rw [hanswer, secrets_served]
    cases hsecret : call.secret? with
    | none => rfl
    | some secret =>
        refine server.keeps_others secret cluster.secrets fun hsame => hkey ?_
        rw [hsame]
        cases call with
        | applyProperties owner ns account properties => exact hwithin secret hsecret
        | readSecret | serverVersion | get | create | update | delete => cases hsecret

theorem version_answerGuarded (fault? : Option OperatorError) :
    (answerGuarded server fault? call cluster).2.version = cluster.version := by
  rcases answerGuarded_cases server fault? call cluster with ⟨e, hanswer⟩ | ⟨-, hanswer⟩
  · rw [hanswer]
  · rw [hanswer]
    exact version_served

theorem objects_answerGuarded_of_read (h : call.isWrite = false)
    (fault? : Option OperatorError) :
    (answerGuarded server fault? call cluster).2.objects = cluster.objects := by
  rcases answerGuarded_cases server fault? call cluster with ⟨e, hanswer⟩ | ⟨-, hanswer⟩
  · rw [hanswer]
  · rw [hanswer, objects_served]
    cases call with
    | create | update | delete => cases h
    | applyProperties | readSecret | serverVersion | get => rfl

/-! ### The same call in two clusters -/

/-- Where a client has seen what there is, its calls go through. -/
theorem admits_of_fits {look? : Option Look} (hfits : call.Fits look?)
    (hseen : ∀ look, look? = some look → cluster.objects.get? look.key = look.found) :
    cluster.admits call = true := by
  cases call with
  | create workload => rw [admits, hseen _ hfits]; rfl
  | update workload =>
      obtain ⟨live, hlook, hversion⟩ := hfits
      have hlive := hseen _ hlook
      simp only at hlive
      rw [admits, hlive, hversion]
      simp
  | applyProperties | readSecret | serverVersion | get | delete => rfl

theorem sameContents_write {workload workload' : StatefulSet}
    (hsame : workload.withoutRevision = workload'.withoutRevision) {key : ObjectKey}
    (h : SameContents (cluster.objects.get? key) (other.objects.get? key)) :
    SameContents ((cluster.write workload).objects.get? key)
      ((other.write workload').objects.get? key) := by
  rw [get?_write, get?_write, StatefulSet.key_eq_of_withoutRevision hsame]
  split
  · exact sameContents_some.2 hsame
  · exact h

theorem sameContents_remove (removed : ObjectKey) {key : ObjectKey}
    (h : SameContents (cluster.objects.get? key) (other.objects.get? key)) :
    SameContents ((cluster.remove removed).objects.get? key)
      ((other.remove removed).objects.get? key) := by
  rw [get?_remove, get?_remove]
  split
  · exact .refl none
  · exact h

theorem sameContents_served (hcalls : call.Alike call') {key : ObjectKey}
    (h : SameContents (cluster.objects.get? key) (other.objects.get? key)) :
    SameContents ((cluster.served server call).objects.get? key)
      ((other.served server call').objects.get? key) := by
  rw [objects_served, objects_served]
  cases hcalls with
  | refl =>
      cases call with
      | create workload | update workload => exact sameContents_write rfl h
      | delete workload => exact sameContents_remove _ h
      | applyProperties | readSecret | serverVersion | get => exact h
  | update hsame => exact sameContents_write hsame h
  | delete hsame =>
      have hkey := StatefulSet.key_eq_of_withoutRevision hsame
      simp only [serve, hkey]
      exact sameContents_remove _ h

theorem secret?_eq_of_alike (hcalls : call.Alike call') : call.secret? = call'.secret? := by
  cases hcalls <;> rfl

theorem secrets_served_eq (hlocal : server.Local) (hcalls : call.Alike call') {key : ObjectKey}
    (h : cluster.secrets.get? key = other.secrets.get? key) :
    (cluster.served server call).secrets.get? key =
      (other.served server call').secrets.get? key := by
  rw [secrets_served, secrets_served, secret?_eq_of_alike hcalls]
  cases call'.secret? with
  | none => exact h
  | some secret =>
      by_cases hkey : key = ⟨secret.ns, secret.name⟩
      · rw [hkey] at h ⊢
        exact hlocal secret _ _ h
      · simp only [server.keeps_others secret _ hkey]
        exact h

/-! ### Two clusters that look the same -/

/-- Two clusters that look the same from a territory. -/
structure SameIn (territory : Territory) (cluster other : SimulatedCluster) : Prop where
  contents : ∀ key, territory.owns key →
    SameContents (cluster.objects.get? key) (other.objects.get? key)
  secrets : ∀ key, territory.reads key ∨ territory.writes key →
    cluster.secrets.get? key = other.secrets.get? key
  version : cluster.version = other.version

theorem SameIn.refl (territory : Territory) (cluster : SimulatedCluster) :
    SameIn territory cluster cluster :=
  ⟨fun _ _ => .refl _, fun _ _ => rfl, rfl⟩

/-- A call from another territory makes no difference. -/
theorem SameIn.answer_apart {foreign : Territory} (h : SameIn territory cluster other)
    (hwithin : call.Within foreign) (hapart : territory.Apart foreign)
    (fault? : Option OperatorError) :
    SameIn territory (answerGuarded server fault? call cluster).2 other where
  contents key hkey := by
    rw [get?_answerGuarded_of_not_owns hwithin (hapart.owns key hkey) fault?]
    exact h.contents key hkey
  secrets key hkey := by
    have hnot : ¬ foreign.writes key := by
      rcases hkey with hkey | hkey
      · exact hapart.reads key hkey
      · exact hapart.writes key hkey
    rw [secrets_answerGuarded_of_not_writes hwithin hnot]
    exact h.secrets key hkey
  version := (version_answerGuarded fault?).trans h.version

/-- Two calls that are alike, and that neither cluster refuses, make no difference. -/
theorem SameIn.answer_alike (hlocal : server.Local) (h : SameIn territory cluster other)
    (hcalls : call.Alike call') (hadmits : cluster.admits call = true)
    (hadmits' : other.admits call' = true) (fault? : Option OperatorError) :
    SameIn territory (answerGuarded server fault? call cluster).2
      (answerGuarded server fault? call' other).2 := by
  cases fault? with
  | some e => exact h
  | none =>
      rw [answerGuarded_of_admits hadmits, answerGuarded_of_admits hadmits']
      refine ⟨fun key hkey => ?_, fun key hkey => ?_, ?_⟩
      · exact sameContents_served hcalls (h.contents key hkey)
      · exact secrets_served_eq hlocal hcalls (h.secrets key hkey)
      · exact version_served.trans (h.version.trans version_served.symm)

end SimulatedCluster

theorem Dialogue.Alike.result?_eq {α : Type} {program other : Dialogue gatewayInterface α}
    (h : program.Alike other) : program.result? = other.result? := by
  cases h <;> rfl

/-! ## Clients in their territories -/

namespace Clients

variable {ι α : Type} {server : SecretServer} {who : ι} {p : ι → GatewayCall → Prop}
  {territory : ι → Territory} {clients together alone : Clients ι α}

/-- Every client makes calls of its kind, has looked before it writes, and finds what it has
seen. -/
structure Orderly (p : ι → GatewayCall → Prop) (territory : ι → Territory)
    (clients : Clients ι α) : Prop where
  keyed : clients.cluster.Keyed
  recalls : ∀ who, ∃ look?, (clients.programs who).LooksFirst (p who) look? ∧
    ∀ look, look? = some look → (territory who).owns look.key ∧
      clients.cluster.objects.get? look.key = look.found

/-- The next call of a client is of its kind and goes through. -/
theorem Orderly.next (h : Orderly p territory clients) {call : GatewayCall}
    {next : Except OperatorError call.Result → Dialogue gatewayInterface α}
    (hprogram : clients.programs who = .ask call next) :
    p who call ∧ clients.cluster.admits call = true := by
  obtain ⟨look?, hlooks, hseen⟩ := h.recalls who
  rw [hprogram] at hlooks
  exact ⟨hlooks.1.1, admits_of_fits hlooks.1.2 fun look hlook => (hseen look hlook).2⟩

variable [DecidableEq ι]

theorem seen_lookAfter {t : Territory} {cluster : SimulatedCluster} {call : GatewayCall}
    {look? : Option Look} (hwithin : call.Within t) (fault? : Option OperatorError)
    (hseen : ∀ look, look? = some look →
      t.owns look.key ∧ cluster.objects.get? look.key = look.found)
    {look : Look}
    (hlook : call.lookAfter look? (answerGuarded server fault? call cluster).1 = some look) :
    t.owns look.key ∧
      (answerGuarded server fault? call cluster).2.objects.get? look.key = look.found := by
  have hread : call.isWrite = false := by
    cases call with
    | create | update | delete => cases hlook
    | applyProperties | readSecret | serverVersion | get => rfl
  rw [objects_answerGuarded_of_read hread]
  rcases lookAfter_answerGuarded hlook with hsame | ⟨-, rfl, hfound⟩
  · exact hseen look hsame
  · exact ⟨hwithin, hfound⟩

theorem Orderly.step (hwithin : ∀ who call, p who call → call.Within (territory who))
    (hapart : ∀ who other, who ≠ other → (territory who).Apart (territory other))
    (h : Orderly p territory clients) (turn : Turn ι) :
    Orderly p territory (clients.step server turn) := by
  cases hprogram : clients.programs turn.who with
  | done value =>
      rw [step_of_done hprogram]
      exact h
  | ask call next =>
      refine ⟨keyed_step h.keyed turn, fun who => ?_⟩
      have hcall := hwithin _ _ (h.next hprogram).1
      by_cases hwho : who = turn.who
      · -- Its own answer shows what is there, or it has written and has to look again.
        subst hwho
        obtain ⟨look?, hlooks, hseen⟩ := h.recalls turn.who
        rw [hprogram] at hlooks
        have hnext := hlooks.2 _ (sound_answerGuarded h.keyed server turn.fault? call)
        rw [← programs_step_self hprogram] at hnext
        refine ⟨_, hnext, fun look hlook => ?_⟩
        rw [step_of_ask hprogram]
        exact seen_lookAfter hcall turn.fault? hseen hlook
      · -- What it has seen is in its territory, where another client does not write.
        obtain ⟨look?, hlooks, hseen⟩ := h.recalls who
        refine ⟨look?, by rw [programs_step_of_ne hwho]; exact hlooks, fun look hlook => ?_⟩
        obtain ⟨howns, hfound⟩ := hseen look hlook
        refine ⟨howns, ?_⟩
        rw [step_of_ask hprogram]
        exact (get?_answerGuarded_of_not_owns hcall ((hapart who _ hwho).owns _ howns) _).trans
          hfound

/-! ## Two runs -/

/-- Two runs that look the same to a client. -/
structure Mirrors (territory : Territory) (who : ι) (together alone : Clients ι α) : Prop where
  programs : (together.programs who).Alike (alone.programs who)
  clusters : SameIn territory together.cluster alone.cluster

/-- A turn of another client in one of the runs makes no difference. -/
theorem Mirrors.step_other (hwithin : ∀ who call, p who call → call.Within (territory who))
    (hapart : ∀ who other, who ≠ other → (territory who).Apart (territory other))
    (horderly : Orderly p territory together) (h : Mirrors (territory who) who together alone)
    {turn : Turn ι} (hwho : who ≠ turn.who) :
    Mirrors (territory who) who (together.step server turn) alone := by
  cases hprogram : together.programs turn.who with
  | done value =>
      rw [step_of_done hprogram]
      exact h
  | ask call next =>
      have hcall := hwithin _ _ (horderly.next hprogram).1
      refine ⟨?_, ?_⟩
      · rw [programs_step_of_ne hwho]
        exact h.programs
      · rw [cluster_step hprogram]
        exact h.clusters.answer_apart hcall (hapart who turn.who hwho) turn.fault?

theorem alike_next (server : SecretServer) {t : Territory} {cluster other : SimulatedCluster}
    {call call' : GatewayCall}
    {next : Except OperatorError call.Result → Dialogue gatewayInterface α}
    {next' : Except OperatorError call'.Result → Dialogue gatewayInterface α}
    (h : Dialogue.Alike (.ask call next) (.ask call' next')) (hwithin : call.Within t)
    (hsame : SameIn t cluster other) (hadmits : cluster.admits call = true)
    (hadmits' : other.admits call' = true) (fault? : Option OperatorError) :
    call.Alike call' ∧
      (next (answerGuarded server fault? call cluster).1).Alike
        (next' (answerGuarded server fault? call' other).1) := by
  cases fault? with
  | some e =>
      cases h with
      | ask h => exact ⟨.refl call, h _ _ (by cases call <;> exact rfl)⟩
      | update hcontents h => exact ⟨.update hcontents, h _⟩
      | delete hcontents h => exact ⟨.delete hcontents, h _⟩
  | none =>
      rw [answerGuarded_of_admits hadmits, answerGuarded_of_admits hadmits']
      cases h with
      | ask h =>
          refine ⟨.refl call, h _ _ ?_⟩
          cases call with
          | get ns name => exact hsame.contents _ hwithin
          | readSecret ns name => exact congrArg Except.ok (hsame.secrets _ (.inl hwithin))
          | serverVersion => exact congrArg Except.ok hsame.version
          | applyProperties | create | update | delete => exact rfl
      | update hcontents h => exact ⟨.update hcontents, h _⟩
      | delete hcontents h => exact ⟨.delete hcontents, h _⟩

/-- A turn of the client itself does the same in both runs. -/
theorem Mirrors.step_self (hlocal : server.Local)
    (hwithin : ∀ who call, p who call → call.Within (territory who))
    (htogether : Orderly p territory together) (halone : Orderly p territory alone) {turn : Turn ι}
    (h : Mirrors (territory turn.who) turn.who together alone) :
    Mirrors (territory turn.who) turn.who (together.step server turn)
      (alone.step server turn) := by
  have hprograms := h.programs
  cases hfirst : together.programs turn.who with
  | done value =>
      cases hsecond : alone.programs turn.who with
      | done value' =>
          rw [step_of_done hfirst, step_of_done hsecond]
          exact h
      | ask call' next' =>
          rw [hfirst, hsecond] at hprograms
          cases hprograms
  | ask call next =>
      cases hsecond : alone.programs turn.who with
      | done value' =>
          rw [hfirst, hsecond] at hprograms
          cases hprograms
      | ask call' next' =>
          rw [hfirst, hsecond] at hprograms
          obtain ⟨hcall, hadmits⟩ := htogether.next hfirst
          obtain ⟨-, hadmits'⟩ := halone.next hsecond
          obtain ⟨hcalls, hnext⟩ := alike_next server hprograms (hwithin _ _ hcall) h.clusters
            hadmits hadmits' turn.fault?
          refine ⟨?_, ?_⟩
          · rw [programs_step_self hfirst, programs_step_self hsecond]
            exact hnext
          · rw [cluster_step hfirst, cluster_step hsecond]
            exact h.clusters.answer_alike hlocal hcalls hadmits hadmits' turn.fault?

theorem orderly_after (hwithin : ∀ who call, p who call → call.Within (territory who))
    (hapart : ∀ who other, who ≠ other → (territory who).Apart (territory other))
    (h : Orderly p territory clients) (turns : List (Turn ι)) :
    Orderly p territory (clients.after server turns) := by
  induction turns generalizing clients with
  | nil => exact h
  | cons turn rest ih => exact ih (h.step hwithin hapart turn)

/-- To a client in its territory, a run next to the others looks like one of its own turns
only. -/
theorem mirrors_after (hlocal : server.Local)
    (hwithin : ∀ who call, p who call → call.Within (territory who))
    (hapart : ∀ who other, who ≠ other → (territory who).Apart (territory other))
    (htogether : Orderly p territory together) (halone : Orderly p territory alone)
    (h : Mirrors (territory who) who together alone) (turns : List (Turn ι)) :
    Mirrors (territory who) who (together.after server turns)
      (alone.after server (turns.filter (·.who = who))) := by
  induction turns generalizing together alone with
  | nil => exact h
  | cons turn rest ih =>
      have hstep : Orderly p territory (together.step server turn) :=
        htogether.step hwithin hapart turn
      by_cases hwho : turn.who = who
      · rw [List.filter_cons_of_pos (by simpa using hwho)]
        subst hwho
        exact ih hstep (halone.step hwithin hapart turn)
          (h.step_self hlocal hwithin htogether halone)
      · rw [List.filter_cons_of_neg (by simpa using hwho)]
        exact ih hstep halone (h.step_other hwithin hapart htogether (Ne.symm hwho))

end Clients

end FleetOperator
