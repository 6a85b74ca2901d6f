import FleetOperator.Proofs.Capability.Composition
import FleetOperator.Proofs.Gateway.Identity
import FleetOperator.Proofs.Text.Cut

/-!
# Which host the gateway image comes from

A fleet that names no image runs the one that the host of its address serves, in
every container of every gateway (`image_of_all`). The host is found in two steps.
The first drops what stands before the first separator of the address, if it has
one (`dropsScheme_iff`), the second takes what is left up to the first slash
(`leadsWith_iff`).

The first step looks for the separator anywhere in the address. Behind a scheme
that is harmless: a scheme has no colon, so the first separator is its own. An
address without a scheme has its first separator in the path, if it has one at
all, and then the host is read from what follows it there
(`relay_does_not_serve_image`).
-/

namespace FleetOperator

open Text

/-! ## The parts of an address -/

/-- What stands between the scheme of an address and its host. -/
def schemeSeparator : List Char := [':', '/', '/']

/-- What is left of an address without its scheme: what follows the first separator, or all of
an address that has none. -/
def DropsScheme (url left : List Char) : Prop :=
  (∃ front, FirstSeparator schemeSeparator url front left) ∨
    ¬ schemeSeparator <:+: url ∧ url = left

/-- Nothing, or something that starts with a slash. -/
def StartsPath (text : List Char) : Prop := ∀ c ∈ text.head?, c = '/'

/-- The text is a host with a path behind it. -/
def LeadsWith (host text : List Char) : Prop :=
  '/' ∉ host ∧ ∃ path, StartsPath path ∧ text = host ++ path

/-- What may stand before the separator. -/
structure IsScheme (text : List Char) : Prop where
  no_colon : ':' ∉ text
  no_slash : '/' ∉ text

/-- A host, alone or with a port. -/
structure IsAuthority (text : List Char) : Prop where
  ne_nil : text ≠ []
  no_slash : '/' ∉ text
  no_query : '?' ∉ text
  no_fragment : '#' ∉ text
  last_ne_colon : text.getLast? ≠ some ':'

/-! ## Behind the scheme -/

section

variable {text front back left : List Char}

theorem not_prefix_of_cons {c : Char}
    (hno : ∀ rest, c = ':' → text = '/' :: '/' :: rest → False) :
    ¬ schemeSeparator <+: c :: text := by
  rintro ⟨rest, hrest⟩
  obtain ⟨hcolon, htext⟩ := List.cons.inj hrest
  exact hno rest hcolon.symm htext.symm

theorem afterScheme?_eq_some_iff :
    Fleet.afterScheme? text = some back ↔
      ∃ front, FirstSeparator schemeSeparator text front back := by
  induction text using Fleet.afterScheme?.induct with
  | case1 =>
      constructor
      · intro h
        cases h
      · rintro ⟨front, hsplit, -⟩
        simp [schemeSeparator] at hsplit
  | case2 rest =>
      have hfirst := firstSeparator_append schemeSeparator rest
      rw [Fleet.afterScheme?, Option.some_inj]
      constructor
      · rintro rfl
        exact ⟨[], hfirst⟩
      · rintro ⟨front, h⟩
        exact hfirst.unique h
  | case3 c rest hno ih =>
      rw [Fleet.afterScheme?.eq_3 _ _ hno, ih]
      simp only [firstSeparator_cons_iff (not_prefix_of_cons hno)]
      constructor
      · rintro ⟨front, h⟩
        exact ⟨c :: front, front, rfl, h⟩
      · rintro ⟨_, front, -, h⟩
        exact ⟨front, h⟩

theorem afterScheme?_eq_none_iff :
    Fleet.afterScheme? text = none ↔ ¬ schemeSeparator <:+: text := by
  constructor
  · intro hnone hinfix
    obtain ⟨front, back, h⟩ := exists_firstSeparator hinfix
    rw [afterScheme?_eq_some_iff.2 ⟨front, h⟩] at hnone
    cases hnone
  · intro hno
    cases hafter : Fleet.afterScheme? text with
    | none => rfl
    | some back =>
        obtain ⟨front, h⟩ := afterScheme?_eq_some_iff.1 hafter
        exact absurd h.isInfix hno

theorem dropsScheme_iff {url : List Char} :
    DropsScheme url left ↔ (Fleet.afterScheme? url).getD url = left := by
  rw [DropsScheme, ← afterScheme?_eq_some_iff, ← afterScheme?_eq_none_iff]
  cases Fleet.afterScheme? url <;> simp

/-- A separator in a text of two parts is in the second one, or its colon is in the first. -/
theorem separator_of_append (h : text ++ left = front ++ (schemeSeparator ++ back)) :
    (∃ front', front = text ++ front' ∧ left = front' ++ (schemeSeparator ++ back)) ∨
      ∃ tail, text = front ++ ':' :: tail ∧ tail ++ left = '/' :: '/' :: back := by
  obtain ⟨front', hfront, hleft⟩ | ⟨shared, htext, hback⟩ := List.append_eq_append_iff.1 h
  · exact .inl ⟨front', hfront, hleft⟩
  · cases shared with
    | nil =>
        rw [List.append_nil] at htext
        exact .inl ⟨[], by rw [htext, List.append_nil], hback.symm⟩
    | cons c tail =>
        obtain ⟨rfl, hrest⟩ := List.cons.inj hback
        exact .inr ⟨tail, htext, hrest.symm⟩

theorem IsScheme.dropsScheme {scheme : List Char} (hscheme : IsScheme scheme)
    (left : List Char) : DropsScheme (scheme ++ (schemeSeparator ++ left)) left := by
  refine .inl ⟨scheme, rfl, ?_⟩
  intro front back hsplit
  obtain ⟨front, rfl, -⟩ | ⟨tail, rfl, -⟩ := separator_of_append hsplit
  · rw [List.length_append]
    omega
  · exact absurd (by simp) hscheme.no_colon

namespace IsAuthority

variable {authority path : List Char}

theorem separator_in_path (hauthority : IsAuthority authority)
    (h : authority ++ path = front ++ (schemeSeparator ++ back)) :
    ∃ front', front = authority ++ front' ∧ path = front' ++ (schemeSeparator ++ back) := by
  obtain hpath | ⟨tail, htext, hrest⟩ := separator_of_append h
  · exact hpath
  · -- the host would have the colon at its end, or a slash behind the colon
    cases tail with
    | nil => exact absurd (by rw [htext, List.getLast?_concat]) hauthority.last_ne_colon
    | cons c tail =>
        obtain ⟨rfl, -⟩ := List.cons.inj hrest
        exact absurd (by simp [htext]) hauthority.no_slash

/-- Without a scheme, the host goes with what comes before the first separator of the path. -/
theorem dropsScheme_of_separator (hauthority : IsAuthority authority)
    (h : FirstSeparator schemeSeparator path front back) :
    DropsScheme (authority ++ path) back := by
  refine .inl ⟨authority ++ front, by rw [h.split, List.append_assoc], ?_⟩
  intro other rest hother
  obtain ⟨other, rfl, hpath⟩ := hauthority.separator_in_path hother
  have hle := h.least other rest hpath
  rw [List.length_append, List.length_append]
  omega

theorem dropsScheme_of_no_separator (hauthority : IsAuthority authority)
    (h : ¬ schemeSeparator <:+: path) : DropsScheme (authority ++ path) (authority ++ path) := by
  refine .inr ⟨?_, rfl⟩
  rintro ⟨front, back, hsplit⟩
  rw [List.append_assoc] at hsplit
  obtain ⟨front, -, hpath⟩ := hauthority.separator_in_path hsplit.symm
  exact h ⟨front, back, by rw [hpath, List.append_assoc]⟩

end IsAuthority

end

/-! ## Up to the first slash -/

theorem leadsWith_iff {host text : List Char} :
    LeadsWith host text ↔ text.takeWhile (· ≠ '/') = host := by
  constructor
  · rintro ⟨hno, path, hpath, rfl⟩
    have hhost : ∀ c ∈ host, decide (c ≠ '/') = true := by
      intro c hc
      exact decide_eq_true fun hslash => hno (hslash ▸ hc)
    have hstops : ∀ c ∈ path.head?, decide (c ≠ '/') = false := by
      intro c hc
      simp [hpath c hc]
    exact ((takeWhile_dropWhile_eq_iff _ _).2 ⟨rfl, hhost, hstops⟩).1
  · rintro rfl
    obtain ⟨htext, hhost, hpath⟩ := (takeWhile_dropWhile_eq_iff (· ≠ '/') text).1 ⟨rfl, rfl⟩
    refine ⟨?_, _, ?_, htext⟩
    · intro hmem
      simpa using hhost '/' hmem
    · intro c hc
      simpa using hpath c hc

theorem hostOf_eq_iff {url host : String} {left : List Char}
    (hleft : DropsScheme url.toList left) :
    Fleet.hostOf url = host ↔ LeadsWith host.toList left := by
  rw [Fleet.hostOf, dropsScheme_iff.1 hleft, ← String.toList_inj, String.toList_ofList,
    leadsWith_iff]

/-! ## The image -/

/-- The fleet with another address of the distribution service. -/
def Fleet.withApiUrl (fleet : Fleet) (url : String) : Fleet :=
  { fleet with spec := { fleet.spec with apiUrl := url } }

/-- Every container of the gateways of a fleet runs the image of the fleet. -/
theorem GatewayDescriptor.image_of_all {fleet : Fleet} {registry : TemplateRegistry}
    {operatorVersion : String} {gateways : List GatewayDescriptor} {gateway : GatewayDescriptor}
    (hall : all fleet registry operatorVersion = .ok gateways) (hmem : gateway ∈ gateways)
    (henabled : gateway.enabled = true) :
    ∀ container ∈ gateway.containers ++ gateway.initContainers,
      container.image = fleet.gatewayImage := by
  obtain ⟨context, templates, hcontext, hcomposed⟩ := exists_composedFrom hall hmem henabled
  obtain ⟨ns, -, rfl⟩ := FleetContext.eq_of_ofFleet hcontext
  intro container hcontainer
  rw [hcomposed.containers, hcomposed.initContainers, List.mem_append] at hcontainer
  rcases hcontainer with hcontainer | hcontainer
  · obtain ⟨template, -, rfl⟩ := List.mem_map.1 hcontainer
    rfl
  · obtain ⟨template, -, hcontainer⟩ := List.mem_flatMap.1 hcontainer
    obtain ⟨plain, -, rfl⟩ := List.mem_map.1 hcontainer
    rfl

section

variable {fleet : Fleet} {scheme authority path : String}

theorem gatewayImage_eq_iff (himage : fleet.spec.activeGate.image = "") {url host : String}
    {left : List Char} (hleft : DropsScheme url.toList left) :
    (fleet.withApiUrl url).gatewayImage = host ++ "/linux/activegate:latest" ↔
      LeadsWith host.toList left := by
  rw [← hostOf_eq_iff hleft, Fleet.gatewayImage]
  simp only [Fleet.withApiUrl, himage]
  exact String.append_left_inj _

/-- Without a scheme, the image is the one of the host behind the first separator in the path. -/
theorem image_from_path_iff (himage : fleet.spec.activeGate.image = "")
    (hauthority : IsAuthority authority.toList) {front back : List Char}
    (hsplit : FirstSeparator schemeSeparator path.toList front back) {host : String} :
    (fleet.withApiUrl (authority ++ path)).gatewayImage = host ++ "/linux/activegate:latest" ↔
      LeadsWith host.toList back := by
  refine gatewayImage_eq_iff himage ?_
  rw [String.toList_append]
  exact hauthority.dropsScheme_of_separator hsplit

/-- Without an image of its own, a fleet whose address has a scheme runs the image that the host
of the address serves. So does one whose address has no scheme, exactly when the first separator
in the path, if there is one, is followed by that host again. -/
theorem image_comes_from_api_host_iff (himage : fleet.spec.activeGate.image = "")
    (hscheme : IsScheme scheme.toList) (hauthority : IsAuthority authority.toList)
    (hpath : StartsPath path.toList) :
    (fleet.withApiUrl (scheme ++ "://" ++ authority ++ path)).gatewayImage =
        authority ++ "/linux/activegate:latest" ∧
      ((fleet.withApiUrl (authority ++ path)).gatewayImage =
          authority ++ "/linux/activegate:latest" ↔
        ∀ front back, FirstSeparator schemeSeparator path.toList front back →
          LeadsWith authority.toList back) := by
  have hhost : LeadsWith authority.toList (authority ++ path).toList :=
    ⟨hauthority.no_slash, path.toList, hpath, String.toList_append⟩
  constructor
  · have hurl : (scheme ++ "://" ++ authority ++ path).toList =
        scheme.toList ++ (schemeSeparator ++ (authority ++ path).toList) := by
      simp only [String.toList_append, List.append_assoc]
      rfl
    have hleft := hscheme.dropsScheme (authority ++ path).toList
    rw [← hurl] at hleft
    exact (gatewayImage_eq_iff himage hleft).2 hhost
  · by_cases hinfix : schemeSeparator <:+: path.toList
    · obtain ⟨front, back, hsplit⟩ := exists_firstSeparator hinfix
      rw [image_from_path_iff himage hauthority hsplit]
      constructor
      · intro hback front' back' hsplit'
        rwa [← hsplit.unique hsplit']
      · intro hback
        exact hback front back hsplit
    · have hleft := hauthority.dropsScheme_of_no_separator hinfix
      rw [← String.toList_append] at hleft
      constructor
      · intro _ front back hsplit
        exact absurd hsplit.isInfix hinfix
      · intro _
        exact (gatewayImage_eq_iff himage hleft).2 hhost

end

/-- The sample fleet behind a relay that takes the whole address of the service for a path; the
relay has the name of the service here. -/
theorem image_of_relayed_fleet :
    sampleFleet.spec.activeGate.image = "" ∧ IsScheme "https".toList ∧
      IsAuthority "live.example.com:8443".toList ∧
      StartsPath "/https://live.example.com:8443/api".toList ∧
      (sampleFleet.withApiUrl ("https" ++ "://" ++ "live.example.com:8443" ++
        "/https://live.example.com:8443/api")).gatewayImage =
          "live.example.com:8443" ++ "/linux/activegate:latest" ∧
      (sampleFleet.withApiUrl ("live.example.com:8443" ++
        "/https://live.example.com:8443/api")).gatewayImage =
          "live.example.com:8443" ++ "/linux/activegate:latest" := by
  have himage : sampleFleet.spec.activeGate.image = "" := rfl
  have hscheme : IsScheme "https".toList := ⟨by decide, by decide⟩
  have hauthority : IsAuthority "live.example.com:8443".toList :=
    ⟨by decide, by decide, by decide, by decide, by decide⟩
  have hpath : StartsPath "/https://live.example.com:8443/api".toList :=
    fun c hc => (Option.some.inj hc).symm
  obtain ⟨hwith, hwithout⟩ := image_comes_from_api_host_iff himage hscheme hauthority hpath
  refine ⟨himage, hscheme, hauthority, hpath, hwith, hwithout.2 ?_⟩
  intro front back hsplit
  have hback : Fleet.afterScheme? "/https://live.example.com:8443/api".toList =
      some "live.example.com:8443/api".toList := by decide
  rw [afterScheme?_eq_some_iff.2 ⟨front, hsplit⟩] at hback
  rw [Option.some.inj hback, leadsWith_iff]
  decide

/-- Without a scheme in the address of the relay, the image comes from the service behind it. -/
theorem relay_does_not_serve_image :
    sampleFleet.spec.activeGate.image = "" ∧ IsAuthority "relay.example.com".toList ∧
      StartsPath "/https://live.example.com/api".toList ∧
      let relayed := sampleFleet.withApiUrl
        ("relay.example.com" ++ "/https://live.example.com/api")
      relayed.gatewayImage = "live.example.com/linux/activegate:latest" ∧
        relayed.gatewayImage ≠ "relay.example.com" ++ "/linux/activegate:latest" := by
  refine ⟨rfl, ⟨by decide, by decide, by decide, by decide, by decide⟩,
    fun c hc => (Option.some.inj hc).symm, ?_, ?_⟩
  · decide +kernel
  · decide +kernel

end FleetOperator
