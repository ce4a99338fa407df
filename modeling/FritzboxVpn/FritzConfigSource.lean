import FritzboxVpn.FlowForms

namespace FritzboxVpn.FritzConfigSource

open ConfigEntries Constants FlowForms JsonValue OrderedDict Text UpdateInterval

def hasUsername (config : Config) : Bool :=
  truthy (value config confUsername) || truthy (value config "username") || truthy (value config "user")

def entryHasCredentials (repr : Json → String) (entry : ForeignEntry) : Bool :=
  hasUsername entry.data || hasUsername entry.options ||
    passwordFromSources repr [some entry.data, some entry.options] ≠ ""

def firstHost (config : Config) : Json :=
  match value config "hosts" with
  | .arr (host :: _) => host
  | _ => .null

def usernameOf (config : Config) : Json :=
  pyOr (pyOr (value config confUsername) (value config "username")) (value config "user")

/-- The login of the dict an entry may hold under "data", for what is missing. -/
def fillFromNested (repr : Json → String) (config : Config) (login : Json × Json × String) :
    Json × Json × String :=
  match asDict (value config "data") with
  | none => login
  | some nested =>
      (pyOr (pyOr login.1 (value nested "host")) (value nested confHost),
        pyOr (pyOr login.2.1 (value nested "username")) (value nested confUsername),
        if login.2.2 ≠ "" then login.2.2 else passwordFromSources repr [some nested])

def loginOf (repr : Json → String) (entry : ForeignEntry) : Json × Json × String :=
  let config := entry.data
  let host := pyOr (pyOr (pyOr (pyOr (pyOr (pyOr (value config confHost) (value config "host"))
    (firstHost config)) (value config "hostname")) (value config "ip_address"))
    (value entry.options confHost)) (value entry.options "host")
  let username := pyOr (usernameOf config) (usernameOf entry.options)
  let password := passwordFromSources repr [some config, some entry.options]
  if truthy host then (host, username, password)
  else fillFromNested repr config (host, username, password)

def hostUsernamePasswordFromEntry (repr : Json → String) (entry : ForeignEntry) : Option Config :=
  if truthy (loginOf repr entry).1 then
    some (loginData (loginOf repr entry).1 (pyOr (loginOf repr entry).2.1 (.str ""))
      (.str (loginOf repr entry).2.2))
  else none

def isRepeater (entry : ForeignEntry) : Bool :=
  repeaterIndicators.any fun ind => contains ind (lower (entry.title.getD ""))

def routerEntries (entries : List ForeignEntry) : List ForeignEntry :=
  (entries.filter fun e => e.state = .other).filter fun e => !isRepeater e

/-- The entry of a domain that is asked: the first with credentials, or else the first. -/
def chosenEntry (repr : Json → String) (entries : List ForeignEntry) : Option ForeignEntry :=
  ((routerEntries entries).find? (entryHasCredentials repr)).or (routerEntries entries).head?

def existingConfigFrom (repr : Json → String) (foreign : Foreign) : List String → Option Config
  | [] => none
  | domain :: domains =>
      (((foreign domain).bind (chosenEntry repr)).bind (hostUsernamePasswordFromEntry repr)).or
        (existingConfigFrom repr foreign domains)

def getExistingFritzConfig (repr : Json → String) (foreign : Foreign) : Option Config :=
  existingConfigFrom repr foreign fritzIntegrationDomains

theorem chosenEntry_router {repr : Json → String} {entries : List ForeignEntry} {entry : ForeignEntry}
    (h : chosenEntry repr entries = some entry) :
    entry ∈ entries ∧ entry.state = .other ∧ isRepeater entry = false := by
  have hmem : entry ∈ routerEntries entries := by
    rw [chosenEntry, Option.or_eq_some_iff] at h
    rcases h with h | ⟨-, h⟩
    · exact List.mem_of_find?_eq_some h
    · exact List.mem_of_head? h
  rw [routerEntries, List.mem_filter, List.mem_filter, decide_eq_true_eq, Bool.not_eq_true'] at hmem
  exact ⟨hmem.1.1, hmem.1.2, hmem.2⟩

/-- A login that is taken over is the one of a router's entry in one of the domains. -/
theorem getExistingFritzConfig_source {repr : Json → String} {foreign : Foreign} {config : Config}
    (h : getExistingFritzConfig repr foreign = some config) :
    ∃ domain ∈ fritzIntegrationDomains, ∃ entries, foreign domain = some entries ∧
      ∃ entry ∈ entries, entry.state = .other ∧ isRepeater entry = false ∧
        hostUsernamePasswordFromEntry repr entry = some config := by
  rw [getExistingFritzConfig] at h
  generalize fritzIntegrationDomains = domains at h ⊢
  induction domains with
  | nil => cases h
  | cons domain domains ih =>
      rw [existingConfigFrom, Option.or_eq_some_iff] at h
      rcases h with h | ⟨-, h⟩
      · obtain ⟨entry, hchosen, hentry⟩ := Option.bind_eq_some_iff.mp h
        obtain ⟨entries, hentries, hchosen⟩ := Option.bind_eq_some_iff.mp hchosen
        obtain ⟨hmem, hstate, hrepeater⟩ := chosenEntry_router hchosen
        exact ⟨domain, List.mem_cons_self, entries, hentries, entry, hmem, hstate, hrepeater, hentry⟩
      · obtain ⟨d, hd, hrest⟩ := ih h
        exact ⟨d, List.mem_cons_of_mem domain hd, hrest⟩

end FritzboxVpn.FritzConfigSource
