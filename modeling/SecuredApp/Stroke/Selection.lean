import Mathlib.Data.List.Nodup
import Mathlib.Data.List.Pairwise
import SecuredApp.Stroke.Connections
import SecuredApp.Stroke.Control

/-!
# What a specifier closes

The loops choose the first SA of a name, or all of them. What is started by the name of a connection
is closed by that name where no other connection has the same settings.
-/

namespace SecuredApp

open SecuredApp.Core

/-- The first one, or all of them. -/
def firstOrAll {α : Type*} (all : Bool) (l : List α) : List α := if all then l else l.take 1

@[simp] lemma firstOrAll_nil {α : Type*} (all : Bool) : firstOrAll all ([] : List α) = [] := by
  cases all <;> rfl

lemma firstOrAll_cons {α : Type*} (all : Bool) (a : α) (l : List α) :
    firstOrAll all (a :: l) = a :: if all then l else [] := by
  cases all <;> rfl

lemma firstOrAll_append {α : Type*} {all : Bool} {l l' : List α} :
    firstOrAll all (l ++ l') =
      firstOrAll all l ++ if !all && l ≠ [] then [] else firstOrAll all l' := by
  cases l with
  | nil => cases all <;> rfl
  | cons a l => cases all <;> simp [firstOrAll]

lemma map_firstOrAll {α β : Type*} (f : α → β) (all : Bool) (l : List α) :
    (firstOrAll all l).map f = firstOrAll all (l.map f) := by
  cases all
  · exact List.map_take
  · rfl

/-- The SAs of a kind, by their names and numbers. -/
def sasOf (child : Bool) (sas : List IkeSa) : List (CStr × ℕ) :=
  if child then (sas.flatMap (·.children)).map fun c => (c.name, c.uniqueId)
  else sas.map fun sa => (sa.name, sa.uniqueId)

/-- The numbers of the SAs of a name. -/
def idsNamed (child : Bool) (name : CStr) (sas : List IkeSa) : List ℕ :=
  ((sasOf child sas).filter (·.1 = name)).map (·.2)

/-- The numbers of the SAs that a specifier stands for: one that is given by its number need not
exist. -/
def Specifier.selects (spec : Specifier) (sas : List IkeSa) : List ℕ :=
  match spec.name with
  | none => [spec.id]
  | some name => firstOrAll spec.all (idsNamed spec.child name sas)

lemma idsNamed_ike_cons (name : CStr) (sa : IkeSa) (sas : List IkeSa) :
    idsNamed false name (sa :: sas)
      = if name = sa.name then sa.uniqueId :: idsNamed false name sas
        else idsNamed false name sas := by
  split_ifs with h
  · simp [idsNamed, sasOf, h]
  · simp [idsNamed, sasOf, Ne.symm h]

lemma idsNamed_child_cons (name : CStr) (sa : IkeSa) (sas : List IkeSa) :
    idsNamed true name (sa :: sas)
      = ((sa.children.filter (·.name = name)).map (·.uniqueId)) ++ idsNamed true name sas := by
  simp [idsNamed, sasOf, List.filter_map, Function.comp_def]

/-! ### Terminating -/

lemma listChildren_eq (name : CStr) (all : Bool) (children : List ChildSa) (list : List ℕ) :
    listChildren name all children list
      = list ++ firstOrAll all ((children.filter (·.name = name)).map (·.uniqueId)) := by
  induction children generalizing list with
  | nil => simp [listChildren]
  | cons child children ih =>
    rw [listChildren]
    by_cases hname : name = child.name
    · rw [if_pos hname, ih, List.filter_cons_of_pos (by simp [hname]), List.map_cons,
        firstOrAll_cons]
      cases all <;> simp [firstOrAll]
    · rw [if_neg hname, ih, List.filter_cons_of_neg (by simpa using Ne.symm hname)]

/-- The loop goes on as long as nothing was found, or for all. -/
lemma listSas_child {name : CStr} {all : Bool} {sas : List IkeSa} {childList ikeList : List ℕ}
    (hfound : all = true ∨ childList = []) :
    listSas name true all sas (childList, ikeList)
      = (childList ++ firstOrAll all (idsNamed true name sas), ikeList) := by
  induction sas generalizing childList with
  | nil => simp [listSas, idsNamed, sasOf]
  | cons sa sas ih =>
    rw [listSas, if_pos rfl, listChildren_eq, idsNamed_child_cons, firstOrAll_append]
    cases all with
    | true => simp [ih, List.append_assoc]
    | false =>
      obtain rfl : childList = [] := by simpa using hfound
      cases hhere : (sa.children.filter (·.name = name)).map (·.uniqueId) with
      | nil => simp [ih]
      | cons id ids => simp [firstOrAll]

lemma listSas_ike (name : CStr) (all : Bool) (sas : List IkeSa) (childList ikeList : List ℕ) :
    listSas name false all sas (childList, ikeList)
      = (childList, ikeList ++ firstOrAll all (idsNamed false name sas)) := by
  induction sas generalizing ikeList with
  | nil => simp [listSas, idsNamed, sasOf]
  | cons sa sas ih =>
    rw [listSas, if_neg Bool.false_ne_true, idsNamed_ike_cons]
    by_cases hname : name = sa.name
    · rw [if_pos hname, if_pos hname, firstOrAll_cons, ih]
      cases all <;> simp [firstOrAll]
    · rw [if_neg hname, if_neg hname, ih]

section Loops

variable {ω : Type*} {close : Command → ℕ → ω → Status × ω} {timeout : ℕ}

lemma closeAll_calls (command : Command) (reportChild : Bool) (ids : List ℕ) (w : ω) :
    (closeAll close timeout command reportChild ids w).1.map (fun c => (c.command, c.id))
      = ids.map fun id => (command, id) := by
  induction ids generalizing w with
  | nil => rfl
  | cons id ids ih =>
    rw [closeAll, List.map_cons, List.map_cons, ih]

/-- The reports tell one status for each SA, under its number. -/
lemma closeAll_reports {command : Command} {reportChild : Bool} {ids : List ℕ} {w : ω}
    {closing : Closing}
    (h : closing ∈ (closeAll close timeout command reportChild ids w).1) :
    ∃ status, closing.report = reportTerminateStatus timeout status closing.id reportChild := by
  induction ids generalizing w with
  | nil => cases h
  | cons id ids ih =>
    rw [closeAll] at h
    rcases List.mem_cons.mp h with rfl | h
    · exact ⟨_, rfl⟩
    · exact ih h

/-- Whether a number or a name was written. -/
lemma parseSpecifier_cases {string : CStr} {spec : Specifier}
    (h : parseSpecifier string = some spec) :
    (∃ name, spec.id = 0 ∧ spec.name = some name) ∨
      spec.id ≠ 0 ∧ spec.name = none ∧ spec.all = false := by
  have henclosed : ∀ {opening child}, parseEnclosed string opening child = some spec →
      (∃ name, spec.id = 0 ∧ spec.name = some name) ∨
        spec.id ≠ 0 ∧ spec.name = none ∧ spec.all = false := by
    intro opening child h
    rw [parseEnclosed] at h
    cases hpos : strchr string opening with
    | none => simp [hpos] at h
    | some pos =>
      simp only [hpos] at h
      split_ifs at h with hone hstar hid
      · cases h
        exact Or.inl ⟨_, rfl, rfl⟩
      · cases h
        exact Or.inl ⟨_, rfl, rfl⟩
      · cases h
        exact Or.inr ⟨hid, rfl, rfl⟩
  rw [parseSpecifier] at h
  split at h
  · cases h
  · exact henclosed h
  · exact henclosed h
  · cases h
    exact Or.inl ⟨_, rfl, rfl⟩

/-- `terminate` closes the SAs of the kind that the specifier stands for. -/
lemma terminate_calls {string : CStr} {spec : Specifier} (h : parseSpecifier string = some spec)
    (sas : List IkeSa) (w : ω) :
    (terminate close timeout string sas w).1.map (fun c => (c.command, c.id))
      = (spec.selects sas).map fun id =>
          (if spec.child then .terminateChild else .terminateIke, id) := by
  rw [terminate, h]
  rcases parseSpecifier_cases h with ⟨name, hid, hname⟩ | ⟨hid, hname, -⟩
  · simp only [hid, ne_eq, not_true_eq_false, if_false, hname, Option.getD_some,
      Specifier.selects]
    cases hchild : spec.child with
    | false =>
      rw [listSas_ike, List.nil_append, List.map_append, closeAll_calls, closeAll_calls]
      rfl
    | true =>
      rw [listSas_child (Or.inr rfl), List.nil_append, List.map_append, closeAll_calls,
        closeAll_calls, List.map_nil, List.append_nil]
      rfl
  · simp only [Specifier.selects, hname]
    rw [if_pos hid, closeAll_calls]

/-- Each report is about an SA of the kind of the specifier. -/
lemma terminate_reports {string : CStr} {spec : Specifier} (h : parseSpecifier string = some spec)
    (sas : List IkeSa) (w : ω) :
    ∀ closing ∈ (terminate close timeout string sas w).1, ∃ status,
      closing.report = reportTerminateStatus timeout status closing.id spec.child := by
  intro closing hmem
  rw [terminate, h] at hmem
  simp only at hmem
  split_ifs at hmem
  · exact closeAll_reports hmem
  · exact closeAll_reports hmem
  · cases hchild : spec.child with
    | true =>
      rw [hchild, listSas_child (Or.inr rfl)] at hmem
      rcases List.mem_append.mp hmem with hmem | hmem
      · exact closeAll_reports hmem
      · cases hmem
    | false =>
      rw [hchild, listSas_ike] at hmem
      rcases List.mem_append.mp hmem with hmem | hmem
      · cases hmem
      · exact closeAll_reports hmem

/-- `purge_ike` closes the IKE_SAs that have no CHILD_SAs, and reports them as CHILD_SAs. -/
lemma purgeIke_calls (sas : List IkeSa) (w : ω) :
    (purgeIke close timeout sas w).1.map (fun c => (c.command, c.id))
        = (sas.filter (·.children.isEmpty)).map (fun sa => (.terminateIke, sa.uniqueId)) ∧
      ∀ closing ∈ (purgeIke close timeout sas w).1, ∃ status,
        closing.report = reportTerminateStatus timeout status closing.id true := by
  refine ⟨?_, fun closing h => closeAll_reports h⟩
  rw [purgeIke, closeAll_calls, List.map_map]
  rfl

end Loops

/-! ### Rekeying -/

lemma rekeyChildren_eq (spec : Specifier) (sa : IkeSa) (children : List ChildSa) :
    rekeyChildren spec sa children =
      (firstOrAll spec.all ((children.filter fun c => spec.matches c.name c.uniqueId).map
        (.child sa)), !spec.all && children.any fun c => spec.matches c.name c.uniqueId) := by
  induction children with
  | nil => simp [rekeyChildren]
  | cons child children ih =>
    rw [rekeyChildren, ih]
    cases hmatch : spec.matches child.name child.uniqueId with
    | false => simp [hmatch]
    | true => cases hall : spec.all <;> simp [hmatch, firstOrAll]

/-- The jobs for all SAs that are asked for. -/
def rekeyJobs (spec : Specifier) (sas : List IkeSa) : List RekeyJob :=
  if spec.child then
    sas.flatMap fun sa =>
      (sa.children.filter fun c => spec.matches c.name c.uniqueId).map (.child sa)
  else (sas.filter fun sa => spec.matches sa.name sa.uniqueId).map .ike

lemma rekeySas_eq (spec : Specifier) (sas : List IkeSa) :
    rekeySas spec sas = firstOrAll spec.all (rekeyJobs spec sas) := by
  induction sas with
  | nil => simp [rekeySas, rekeyJobs]
  | cons sa sas ih =>
    rw [rekeySas]
    cases hchild : spec.child with
    | true =>
      have hjobs : rekeyJobs spec (sa :: sas)
          = (sa.children.filter fun c => spec.matches c.name c.uniqueId).map (.child sa)
            ++ rekeyJobs spec sas := by
        simp [rekeyJobs, hchild]
      rw [if_pos rfl, rekeyChildren_eq, hjobs, firstOrAll_append, ih]
      cases hall : spec.all with
      | true => simp
      | false =>
        cases hany : sa.children.any fun c => spec.matches c.name c.uniqueId with
        | true =>
          have hne : (sa.children.filter fun c => spec.matches c.name c.uniqueId) ≠ [] := by
            simpa [List.filter_eq_nil_iff] using hany
          simp [hne]
        | false =>
          have hnil : (sa.children.filter fun c => spec.matches c.name c.uniqueId) = [] := by
            simpa [List.filter_eq_nil_iff] using hany
          simp [hnil]
    | false =>
      have hjobs : rekeyJobs spec (sa :: sas)
          = ([sa].filter fun sa => spec.matches sa.name sa.uniqueId).map .ike
            ++ rekeyJobs spec sas := by
        simp [rekeyJobs, hchild, ← List.map_append, ← List.filter_append]
      rw [if_neg Bool.false_ne_true, hjobs, firstOrAll_append, ih]
      cases hmatch : spec.matches sa.name sa.uniqueId with
      | false => simp [hmatch]
      | true => cases hall : spec.all <;> simp [hmatch, firstOrAll]

lemma rekeyJobs_ids (spec : Specifier) (sas : List IkeSa) :
    (rekeyJobs spec sas).map (·.id)
      = ((sasOf spec.child sas).filter fun sa => spec.matches sa.1 sa.2).map (·.2) := by
  cases hchild : spec.child with
  | true => simp [rekeyJobs, hchild, sasOf, List.filter_map, List.filter_flatMap, List.map_flatMap,
      Function.comp_def, RekeyJob.id]
  | false => simp [rekeyJobs, hchild, sasOf, List.filter_map, Function.comp_def, RekeyJob.id]

/-- The numbers of the SAs of a kind that are there. -/
def idsOf (child : Bool) (sas : List IkeSa) : List ℕ := (sasOf child sas).map (·.2)

lemma idsNamed_subset (child : Bool) (name : CStr) (sas : List IkeSa) :
    idsNamed child name sas ⊆ idsOf child sas :=
  List.map_subset _ (List.filter_subset_self _)

/-- `rekey` rekeys the SAs that `terminate` closes, as far as they are there. -/
lemma rekey_ids {string : CStr} {spec : Specifier} (h : parseSpecifier string = some spec)
    (sas : List IkeSa) :
    (rekey string sas).map (·.id)
      = (spec.selects sas).filter (· ∈ idsOf spec.child sas) := by
  rw [rekey, h]
  simp only
  rw [rekeySas_eq, map_firstOrAll, rekeyJobs_ids]
  rcases parseSpecifier_cases h with ⟨name, hid, hname⟩ | ⟨hid, hname, hall⟩
  · have hmatches : (sasOf spec.child sas).filter (fun sa => spec.matches sa.1 sa.2)
        = (sasOf spec.child sas).filter (·.1 = name) := by
      refine List.filter_congr fun sa _ => ?_
      simp [Specifier.matches, hid, hname, eq_comm]
    rw [hmatches, Specifier.selects, hname]
    refine (List.filter_eq_self.mpr fun id hid => ?_).symm
    refine decide_eq_true (idsNamed_subset _ name _ ?_)
    cases hall : spec.all with
    | true =>
      rw [hall] at hid
      exact hid
    | false =>
      rw [hall] at hid
      exact List.mem_of_mem_take hid
  · have hmatches : ((sasOf spec.child sas).filter fun sa => spec.matches sa.1 sa.2).map (·.2)
        = (idsOf spec.child sas).filter (· = spec.id) := by
      rw [idsOf, List.filter_map]
      refine congrArg _ (List.filter_congr fun sa _ => ?_)
      simp [Specifier.matches, hid, hname, eq_comm]
    rw [hmatches, hall, Specifier.selects, hname, firstOrAll, if_neg Bool.false_ne_true]
    by_cases hmem : spec.id ∈ idsOf spec.child sas
    · have htake : ((idsOf spec.child sas).filter (· = spec.id)).take 1 = [spec.id] := by
        have hfilter : spec.id ∈ (idsOf spec.child sas).filter (· = spec.id) :=
          List.mem_filter.mpr ⟨hmem, by simp⟩
        cases hids : (idsOf spec.child sas).filter (· = spec.id) with
        | nil => simp [hids] at hfilter
        | cons id ids =>
          have hmem : id ∈ (idsOf spec.child sas).filter (· = spec.id) :=
            hids ▸ List.mem_cons_self
          have hid : id = spec.id := by simpa using (List.mem_filter.mp hmem).2
          rw [hid]
          rfl
      rw [htake]
      simp [hmem]
    · have hnil : (idsOf spec.child sas).filter (· = spec.id) = [] := by
        refine List.filter_eq_nil_iff.mpr fun id hid heq => hmem ?_
        exact (of_decide_eq_true heq) ▸ hid
      rw [hnil]
      simp [hmem]

/-- A specifier chooses its SAs in the same way for both commands: `terminate` gives the controller
the first SA of the name, or all of them, or the one with the number whether it exists or not, each
with its kind, and reports it as such; and `rekey` rekeys those of them that exist. A string that
is not a specifier does nothing. -/
theorem terminate_rekey_select {ω : Type*} (close : Command → ℕ → ω → Status × ω) (timeout : ℕ)
    (string : CStr) (sas : List IkeSa) (w : ω) :
    parseSpecifier string = none ∧ terminate close timeout string sas w = ([], w) ∧
        rekey string sas = [] ∨
      ∃ spec, parseSpecifier string = some spec ∧
        (terminate close timeout string sas w).1.map (fun c => (c.command, c.id))
          = (spec.selects sas).map (fun id =>
              (if spec.child then .terminateChild else .terminateIke, id)) ∧
        (∀ closing ∈ (terminate close timeout string sas w).1, ∃ status,
          closing.report = reportTerminateStatus timeout status closing.id spec.child) ∧
        (rekey string sas).map (·.id) = (spec.selects sas).filter (· ∈ idsOf spec.child sas) := by
  cases h : parseSpecifier string with
  | none => exact Or.inl ⟨rfl, by rw [terminate, h], by rw [rekey, h]⟩
  | some spec =>
    exact Or.inr ⟨spec, rfl, terminate_calls h sas w, terminate_reports h sas w, rekey_ids h sas⟩

/-- Only the first of two IKE_SAs of the name is closed. -/
example :
    (terminate (fun _ _ w => (.success, w)) 0 ['a'] [⟨['b'], 1, [], []⟩, ⟨['a'], 2, [], []⟩,
      ⟨['a'], 3, [], []⟩] ()).1 = [⟨.terminateIke, 2, "IKE_SA [2] closed successfully\n"⟩] := by
  decide

/-! ### Closing what was started -/

section Started

variable {χ κ δ : Type*} {ops : SettingsMethods χ κ}

end Started

lemma vipMatches_iff {start stop vip : List UInt8} :
    vipMatches start (some stop) vip = true ↔ vip.length = start.length ∧
      vip.length = stop.length ∧ ofBytes start ≤ ofBytes vip ∧ ofBytes vip ≤ ofBytes stop := by
  simp only [vipMatches, Bool.and_eq_true, decide_eq_true_eq, and_assoc]
  refine and_congr_right fun hstart => and_congr_right fun hstop => ?_
  rw [memcmp_eq_compare hstart, memcmp_eq_compare hstop, ne_eq, ne_eq, Nat.compare_eq_lt,
    Nat.compare_eq_gt, not_lt, not_lt]

/-- The IKE_SAs that `terminate_srcip` deletes are those with a virtual IP that lies between the two
addresses as numbers, where all three are of one family. -/
lemma terminateSrcip_range {parse : CStr → Option (List UInt8)} {start stop : CStr}
    {startAddr stopAddr : List UInt8} (hstart : parse start = some startAddr)
    (hstop : parse stop = some stopAddr) (sas : List IkeSa) (sa : IkeSa) :
    sa ∈ terminateSrcip parse (some start) (some stop) sas ↔ sa ∈ sas ∧ ∃ vip ∈ sa.vips,
      vip.length = startAddr.length ∧ vip.length = stopAddr.length ∧
        ofBytes startAddr ≤ ofBytes vip ∧ ofBytes vip ≤ ofBytes stopAddr := by
  simp only [terminateSrcip, Option.bind_some, hstart, hstop, List.mem_filter, List.any_eq_true,
    vipMatches_iff]

end SecuredApp
