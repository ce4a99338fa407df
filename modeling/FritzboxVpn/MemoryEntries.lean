import FritzboxVpn.ConfigEntries

namespace FritzboxVpn.MemoryEntries

open ConfigEntries OrderedDict

def entryFor (s : Store) (uniqueId : String) : Option Nat :=
  (s.entries.entries.find? fun p => p.2.uniqueId = some uniqueId).map Prod.fst

def setUniqueId (s : Store) (flow : FlowId) (uniqueId : String) : Except FlowError Store :=
  if s.uniqueIds.entries.any fun p => p.1 ≠ flow && p.2 = uniqueId then
    .error (.abortFlow "already_in_progress")
  else .ok { s with uniqueIds := s.uniqueIds.insert flow uniqueId }

def abortIfConfigured (s : Store) (flow : FlowId) : Except FlowError Unit :=
  if ((s.uniqueIds.get? flow).bind (entryFor s)).isSome then .error (.abortFlow "already_configured")
  else .ok ()

def endFlow (s : Store) (flow : FlowId) : Store := { s with uniqueIds := s.uniqueIds.erase flow }

def add (s : Store) (flow : FlowId) (data : Config) : Store :=
  let uniqueId := s.uniqueIds.get? flow
  let entries := match uniqueId.bind (entryFor s) with
    | some replaced => s.entries.erase replaced
    | none => s.entries
  { endFlow s flow with
    entries := entries.insert s.created ⟨data, Dict.empty, uniqueId⟩
    created := s.created + 1 }

theorem get?_of_erase {κ ν : Type} [DecidableEq κ] {d : Dict κ ν} {k x : κ} {v : ν}
    (h : (d.erase k).get? x = some v) : d.get? x = some v := by
  rw [Dict.get?_erase] at h
  split at h
  · cases h
  · exact h

theorem setUniqueId_claimed {s s' : Store} {flow : FlowId} {uniqueId : String}
    (h : setUniqueId s flow uniqueId = .ok s') : Claimed s flow uniqueId s' := by
  rw [setUniqueId] at h
  split at h
  · cases h
  · cases h
    exact ⟨rfl, rfl, Dict.get?_insert_self _ _ _, fun other hne => Dict.get?_insert_ne _ hne _⟩

theorem notConfigured_of_ok {s : Store} {flow : FlowId} (h : abortIfConfigured s flow = .ok ())
    {u : String} (hu : s.uniqueIds.get? flow = some u) {i : Nat} {e : Entry}
    (he : s.entries.get? i = some e) : e.uniqueId ≠ some u := by
  intro hsame
  rw [abortIfConfigured, hu, Option.bind_some, entryFor] at h
  have hfound : (s.entries.entries.find? fun p => p.2.uniqueId = some u).isSome = true := by
    rw [List.find?_isSome]
    exact ⟨(i, e), Dict.mem_entries_iff.mpr he, decide_eq_true hsame⟩
  rw [Option.isSome_map, if_pos hfound] at h
  cases h

theorem endFlow_leaves (s : Store) (flow : FlowId) : Leaves s (fun _ _ => False) (endFlow s flow) :=
  ⟨fun _ _ he => Or.inr he, le_rfl, fun _ _ hu => get?_of_erase hu⟩

theorem add_leaves (s : Store) (flow : FlowId) (data : Config) : Leaves s
    (fun i e => i = s.created ∧ e = ⟨data, Dict.empty, s.uniqueIds.get? flow⟩) (add s flow data) := by
  refine ⟨?_, Nat.le_succ _, fun _ _ hu => get?_of_erase hu⟩
  intro i e he
  rw [add, Dict.get?_insert] at he
  split at he
  · rename_i hsame
    exact Or.inl ⟨hsame, (Option.some.inj he).symm⟩
  · split at he
    · exact Or.inr (get?_of_erase he)
    · exact Or.inr he

theorem update_leaves (s : Store) (entryId : Nat) (entry : Entry) :
    Leaves s (fun i e => i = entryId ∧ e = entry) { s with entries := s.entries.insert entryId entry } := by
  refine ⟨?_, le_rfl, fun _ _ hu => hu⟩
  intro i e he
  rw [Dict.get?_insert] at he
  split at he
  · rename_i hsame
    exact Or.inl ⟨hsame, (Option.some.inj he).symm⟩
  · exact Or.inr he

/-- Entries and flows kept in memory, with calls that raise only where Home Assistant
documents it. -/
def memoryEntries : EntriesApi where
  asyncSetUniqueId := setUniqueId
  abortIfUniqueIdConfigured := abortIfConfigured
  asyncAdd := add
  asyncUpdateEntry s entryId entry := { s with entries := s.entries.insert entryId entry }
  asyncRemove s entryId := { s with entries := s.entries.erase entryId }
  asyncAbort := endFlow
  claimed _ _ _ _ h := setUniqueId_claimed h
  notConfigured _ _ h _ hu _ _ he := notConfigured_of_ok h hu he
  added := add_leaves
  created_lt s _ _ := Nat.lt_succ_self s.created
  updated := update_leaves
  removed _ _ := ⟨fun _ _ he => Or.inr (get?_of_erase he), le_rfl, fun _ _ hu => hu⟩
  aborted := endFlow_leaves

end FritzboxVpn.MemoryEntries
