import Mathlib.Data.List.Forall2
import SecuredApp.Gui.PsaList

/-!
# The rows of the list of PSAs

`updatePsaList` with the ids its rows carry, for one answer at a time: what it leaves of the rows
displayed before, and what it puts there.
-/

namespace SecuredApp

open SecuredApp.Core

/-- An item of the list: its text, and its data for `Qt.UserRole`. -/
structure PsaRow where
  text : String
  data : String
deriving DecidableEq

/-- What `updatePsaList` writes to: the rows, and the thread that it may start, `none` until it is
assigned. -/
structure PsaDisplay where
  rows : List PsaRow
  psaEventThread : Option Bool

/-- The item made for an id. -/
def psaRow (data : String) : PsaRow where
  text := "Type: " ++ (psaNames.lookup (lower data)).getD data
  data := data

/-- `enableMonitoring`. -/
def startEventThread : Py PsaDisplay Unit := do
  let d ← get
  match d.psaEventThread with
  | none => throw .attributeError
  | some _ => modify fun d => { d with psaEventThread := some true }

/-- The body of the loop of `updatePsaList`. -/
def addRow (psa : Json) : Py PsaDisplay Unit := do
  let psaId ← getItem psa "id"
  match psaId with
  | .str data =>
    modify fun d => { d with rows := d.rows ++ [psaRow data] }
    if data = "BroMalware" then startEventThread
  | _ => throw .attributeError

/-- `updatePsaList` of a value that `json.loads` gives. -/
def updateRows (literalEval : Json → Except PyError Json) (r : Json) : Py PsaDisplay Unit := do
  match jsonLen r with
  | none => throw .typeError
  | some 0 => pure ()
  | some _ =>
    modify fun d => { d with rows := [] }
    let response ← getItem r "psa_response"
    match literalEval response with
    | .error e => throw e
    | .ok psas =>
      match iterItems psas with
      | none => throw .typeError
      | some items => forM items addRow

/-! ### The rows and their texts -/

variable {literalEval : Json → Except PyError Json} {r psa : Json} {app : App} {d : PsaDisplay}

/-- The widget shows the texts of the rows. -/
def Shows (app : App) (d : PsaDisplay) : Prop :=
  app.ui.listWidget = d.rows.map PsaRow.text ∧ app.psaEventThread = d.psaEventThread

/-- The two statements return or raise alike, and the widget goes on to show the rows. -/
def Mirrors (x : Py App Unit) (y : Py PsaDisplay Unit) : Prop :=
  ∀ app d, Shows app d → returns x app = returns y d ∧ Shows (after x app) (after y d)

namespace Mirrors

variable {x : Py App Unit} {y : Py PsaDisplay Unit}

lemma throw (e : PyError) : Mirrors (throw e) (throw e) := fun _ _ h => ⟨rfl, h⟩

lemma pure : Mirrors (pure ⟨⟩) (pure ⟨⟩) := fun _ _ h => ⟨rfl, h⟩

lemma modify {f : App → App} {g : PsaDisplay → PsaDisplay}
    (h : ∀ app d, Shows app d → Shows (f app) (g d)) : Mirrors (modify f) (modify g) :=
  fun app d hshows => ⟨rfl, h app d hshows⟩

lemma bind {f : Unit → Py App Unit} {g : Unit → Py PsaDisplay Unit} (hx : Mirrors x y)
    (hf : Mirrors (f ⟨⟩) (g ⟨⟩)) : Mirrors (x >>= f) (y >>= g) := by
  intro app d hshows
  obtain ⟨hret, hafter⟩ := hx app d hshows
  rw [returns, returns] at hret
  cases hrun : EStateM.run x app with
  | ok a app' =>
    cases hrun' : EStateM.run y d with
    | ok b d' =>
      rw [after_of_ok hrun, after_of_ok hrun'] at hafter
      rw [after_bind_of_ok hrun, after_bind_of_ok hrun', returns, returns, EStateM.run_bind,
        EStateM.run_bind, hrun, hrun']
      exact hf app' d' hafter
    | error e d' =>
      rw [hrun, hrun'] at hret
      cases hret
  | error e app' =>
    cases hrun' : EStateM.run y d with
    | ok b d' =>
      rw [hrun, hrun'] at hret
      cases hret
    | error e' d' =>
      rw [after, after, hrun, hrun'] at hafter
      rw [after_bind_of_error hrun, after_bind_of_error hrun', returns, returns, EStateM.run_bind,
        EStateM.run_bind, hrun, hrun']
      exact ⟨rfl, hafter⟩

lemma forM {l : List Json} {f : Json → Py App Unit} {g : Json → Py PsaDisplay Unit}
    (h : ∀ psa, Mirrors (f psa) (g psa)) : Mirrors (ForM.forM l f) (ForM.forM l g) := by
  induction l with
  | nil => exact pure
  | cons psa l ih =>
    rw [List.forM_cons, List.forM_cons]
    exact bind (h psa) ih

/-- An item of a value is the same in both, or raises in both. -/
lemma getItem_bind {j : Json} {key : String} {f : Json → Py App Unit}
    {g : Json → Py PsaDisplay Unit} (h : ∀ item, Mirrors (f item) (g item)) :
    Mirrors (getItem j key >>= f) (getItem j key >>= g) := by
  cases hmember : j.member? key with
  | none =>
    obtain ⟨e, he⟩ := getItem_of_not_member (σ := App) hmember
    obtain ⟨e', he'⟩ := getItem_of_not_member (σ := PsaDisplay) hmember
    rw [he, he']
    exact fun _ _ hshows => ⟨rfl, hshows⟩
  | some item =>
    rw [getItem_of_member hmember, getItem_of_member hmember, pure_bind, pure_bind]
    exact h item

end Mirrors

lemma mirrors_startEventThread : Mirrors enableMonitoring startEventThread := by
  intro app d hshows
  simp only [enableMonitoring, startEventThread, returns, after, EStateM.run_bind, EStateM.run_get,
    hshows.2]
  cases d.psaEventThread with
  | none => exact ⟨rfl, hshows⟩
  | some running => exact ⟨rfl, hshows.1, rfl⟩

lemma mirrors_addRow (psa : Json) : Mirrors (showPsa psa) (addRow psa) := by
  refine .getItem_bind fun psaId => ?_
  cases psaId with
  | str data =>
    refine .bind (.modify fun app d hshows => ⟨?_, hshows.2⟩) ?_
    · show app.ui.listWidget ++ [_] = (d.rows ++ [psaRow data]).map PsaRow.text
      rw [hshows.1, List.map_append]
      rfl
    · split_ifs
      · exact mirrors_startEventThread
      · exact .pure
  | _ => exact .throw _

/-- The texts of the rows are what `updatePsaList` lists. -/
lemma mirrors_updateRows (literalEval : Json → Except PyError Json) (r : Json) :
    Mirrors (updatePsaList literalEval r) (updateRows literalEval r) := by
  rw [updatePsaList, updateRows]
  cases jsonLen r with
  | none => exact .throw _
  | some n =>
    cases n with
    | zero => exact .pure
    | succ n =>
      refine .bind (.modify fun app d hshows => ⟨rfl, hshows.2⟩) ?_
      refine .getItem_bind fun response => ?_
      cases literalEval response with
      | error e => exact .throw e
      | ok psas =>
        cases hitems : iterItems psas with
        | none =>
          simp only [hitems]
          exact .throw _
        | some items =>
          simp only [hitems]
          exact .forM mirrors_addRow

/-! ### The rows of an answer -/

/-- The PSAs that an answer lists, if it lists any that a loop goes over. -/
def psasOf (literalEval : Json → Except PyError Json) (r : Json) : Option (List Json) :=
  match r.member? "psa_response" with
  | none => none
  | some response =>
    match literalEval response with
    | .error _ => none
    | .ok psas => iterItems psas

/-- The id of a PSA, if it has a text as one. -/
def psaId (psa : Json) : Option String :=
  match psa.member? "id" with
  | some (.str data) => some data
  | _ => none

/-- The rows of the PSAs up to the first one without an id, or the first one whose events nothing is
there for: the thread for them is `made` or not. -/
def rowsUpTo (made : Bool) : List Json → List PsaRow
  | [] => []
  | psa :: rest =>
    match psaId psa with
    | none => []
    | some data =>
      psaRow data :: if data = "BroMalware" ∧ made = false then [] else rowsUpTo made rest

lemma rowsUpTo_cons_of_none (h : psaId psa = none) (made : Bool) (rest : List Json) :
    rowsUpTo made (psa :: rest) = [] := by
  rw [rowsUpTo, h]

lemma rowsUpTo_cons_of_some {data : String} (h : psaId psa = some data) (made : Bool)
    (rest : List Json) :
    rowsUpTo made (psa :: rest)
      = psaRow data :: if data = "BroMalware" ∧ made = false then [] else rowsUpTo made rest := by
  rw [rowsUpTo, h]

/-- Every PSA has an id, and nothing raises before the last of them has its row. -/
def AllShown (made : Bool) (items : List Json) : Prop :=
  (∀ psa ∈ items, psaId psa ≠ none) ∧
    (made = false → ∀ psa ∈ items.dropLast, psaId psa ≠ some "BroMalware")

/-- A row carries the id of a PSA. -/
def CarriesId (psa : Json) (row : PsaRow) : Prop := psaId psa = some row.data

lemma psaId_eq_some_iff {data : String} :
    psaId psa = some data ↔ psa.member? "id" = some (.str data) := by
  rw [psaId]
  split
  · rename_i data' hmember
    simp [hmember]
  · rename_i hnot
    refine ⟨fun h => ?_, fun h => absurd h (hnot data)⟩
    cases h

lemma addRow_of_not_id (h : psaId psa = none) : ∃ e, addRow psa = throw e := by
  cases hmember : psa.member? "id" with
  | none =>
    obtain ⟨e, he⟩ := getItem_of_not_member (σ := PsaDisplay) hmember
    exact ⟨e, by rw [addRow, he]; rfl⟩
  | some item =>
    cases item with
    | str data => cases (psaId_eq_some_iff.mpr hmember).symm.trans h
    | _ => exact ⟨.attributeError, by rw [addRow, getItem_of_member hmember]; rfl⟩

/-- The row of a PSA with an id is added; what follows raises if it is to start a thread that was
never made. -/
lemma run_addRow {data : String} (h : psaId psa = some data) (d : PsaDisplay) :
    EStateM.run (addRow psa) d
      = if data = "BroMalware" ∧ d.psaEventThread = none then
          .error .attributeError { d with rows := d.rows ++ [psaRow data] }
        else .ok ⟨⟩ {
          rows := d.rows ++ [psaRow data]
          psaEventThread := if data = "BroMalware" then some true else d.psaEventThread } := by
  rw [addRow, getItem_of_member (psaId_eq_some_iff.mp h), pure_bind]
  by_cases hbro : data = "BroMalware"
  · cases hthread : d.psaEventThread with
    | none => simp [hbro, hthread, startEventThread]
    | some running => simp [hbro, hthread, startEventThread]
  · simp [hbro]

lemma rows_forM_addRow (items : List Json) (d : PsaDisplay) :
    (after (ForM.forM items addRow) d).rows
      = d.rows ++ rowsUpTo d.psaEventThread.isSome items := by
  induction items generalizing d with
  | nil => simp [rowsUpTo]
  | cons psa items ih =>
    rw [List.forM_cons]
    cases hid : psaId psa with
    | none =>
      obtain ⟨e, he⟩ := addRow_of_not_id hid
      rw [he, rowsUpTo_cons_of_none hid, List.append_nil]
      rfl
    | some data =>
      have hrun := run_addRow hid d
      rw [rowsUpTo_cons_of_some hid]
      by_cases hraise : data = "BroMalware" ∧ d.psaEventThread = none
      · rw [if_pos hraise] at hrun
        have hnot : data = "BroMalware" ∧ d.psaEventThread.isSome = false :=
          ⟨hraise.1, by rw [hraise.2]; rfl⟩
        rw [after_bind_of_error hrun, if_pos hnot]
      · rw [if_neg hraise] at hrun
        have hmade : ¬ (data = "BroMalware" ∧ d.psaEventThread.isSome = false) := by
          rw [Option.isSome_eq_false_iff, Option.isNone_iff_eq_none]
          exact hraise
        have hkept : (if data = "BroMalware" then some true else d.psaEventThread).isSome
            = d.psaEventThread.isSome := by
          split_ifs with hbro
          · exact (eq_true_of_ne_false fun hfalse => hmade ⟨hbro, hfalse⟩).symm
          · rfl
        rw [after_bind_of_ok hrun, ih, if_neg hmade, hkept, List.append_assoc]
        rfl

/-- What an answer leaves of the rows. -/
lemma rows_updateRows (literalEval : Json → Except PyError Json) (r : Json) (d : PsaDisplay) :
    (after (updateRows literalEval r) d).rows
      = if emitted r then
          rowsUpTo d.psaEventThread.isSome ((psasOf literalEval r).getD [])
        else d.rows := by
  rw [updateRows]
  cases hlen : jsonLen r with
  | none => simp [emitted, hlen]
  | some n =>
    cases n with
    | zero => simp [emitted, hlen]
    | succ n =>
      have hemitted : emitted r = true := by simp [emitted, hlen]
      rw [if_pos hemitted, psasOf]
      show (after (modify (fun d => { d with rows := [] }) >>= _) d).rows = _
      rw [after_modify_bind]
      cases hresponse : r.member? "psa_response" with
      | none =>
        obtain ⟨e, he⟩ := getItem_of_not_member (σ := PsaDisplay) hresponse
        rw [he]
        rfl
      | some response =>
        rw [getItem_of_member hresponse, pure_bind]
        cases heval : literalEval response with
        | error e => simp [heval, rowsUpTo]
        | ok psas =>
          cases hitems : iterItems psas with
          | none => simp [heval, hitems, rowsUpTo]
          | some items =>
            simp only [heval, hitems, Option.getD_some]
            rw [rows_forM_addRow]
            rfl

/-- The rows are one for each PSA exactly if all of them are shown. -/
lemma forall₂_rowsUpTo_iff (made : Bool) (items : List Json) :
    List.Forall₂ CarriesId items (rowsUpTo made items) ↔ AllShown made items := by
  induction items with
  | nil => simp [rowsUpTo, AllShown]
  | cons psa items ih =>
    cases hid : psaId psa with
    | none =>
      rw [rowsUpTo_cons_of_none hid]
      refine ⟨fun h => ?_, fun h => absurd hid (h.1 psa List.mem_cons_self)⟩
      cases h
    | some data =>
      have hcarries : CarriesId psa (psaRow data) := hid
      have hid' : psaId psa ≠ none := hid ▸ Option.some_ne_none data
      rw [rowsUpTo_cons_of_some hid, List.forall₂_cons, and_iff_right hcarries]
      by_cases hraise : data = "BroMalware" ∧ made = false
      · rw [if_pos hraise, List.forall₂_nil_right_iff]
        cases items with
        | nil => simp [AllShown, hid']
        | cons psa' items =>
          refine ⟨fun h => ?_, fun h => ?_⟩
          · cases h
          · rw [hraise.1] at hid
            exact absurd hid (h.2 hraise.2 psa List.mem_cons_self)
      · rw [if_neg hraise, ih, AllShown, AllShown, List.forall_mem_cons, and_iff_right hid']
        refine and_congr_right fun _ => forall_congr' fun hmade => ?_
        have hnot : psaId psa ≠ some "BroMalware" := by
          intro hbro
          exact hraise ⟨Option.some.inj (hid.symm.trans hbro), hmade⟩
        cases items with
        | nil => simp
        | cons psa' items => rw [List.dropLast_cons_cons, List.forall_mem_cons, and_iff_right hnot]

/-- An answer leaves the rows as they were, or puts one row for each PSA with its id in their
place, exactly if it lists none that would clear them, if all its PSAs are shown, or if the rows
displayed are those of its PSAs up to the one that raises. -/
theorem rows_atomic_iff (literalEval : Json → Except PyError Json) (r : Json) (d : PsaDisplay) :
    ((after (updateRows literalEval r) d).rows = d.rows ∨
      ∃ items ∈ psasOf literalEval r,
        List.Forall₂ CarriesId items (after (updateRows literalEval r) d).rows) ↔
    emitted r = false ∨
      (∃ items ∈ psasOf literalEval r, AllShown d.psaEventThread.isSome items) ∨
      d.rows = rowsUpTo d.psaEventThread.isSome ((psasOf literalEval r).getD []) := by
  rw [rows_updateRows]
  cases hemitted : emitted r with
  | false => simp
  | true =>
    have hshown : (∃ items ∈ psasOf literalEval r, List.Forall₂ CarriesId items
          (rowsUpTo d.psaEventThread.isSome ((psasOf literalEval r).getD []))) ↔
        ∃ items ∈ psasOf literalEval r, AllShown d.psaEventThread.isSome items := by
      refine exists_congr fun items => and_congr_right fun hitems => ?_
      rw [Option.mem_def.mp hitems, Option.getD_some]
      exact forall₂_rowsUpTo_iff _ _
    rw [if_pos rfl, hshown, eq_comm, or_comm]
    simp

/-- The list of two PSAs, one of which has no id, as the PSC answers it and as `literal_eval` reads
it. -/
def squidAndNoId : Json := .obj [("psa_response", .str "[\x7b'id': 'squid'\x7d, \x7b\x7d]")]

def squidAndNoIdLiteral (_ : Json) : Except PyError Json :=
  .ok (.arr [.obj [("id", .str "squid")], .obj []])

/-- The rows displayed before are gone, and of the two PSAs one has a row. -/
theorem rows_half_replaced :
    let d : PsaDisplay := ⟨[⟨"Type: Packet Filter", "iptables"⟩], some false⟩
    let d' := after (updateRows squidAndNoIdLiteral squidAndNoId) d
    d'.rows = [⟨"Type: Application Layer Filter", "squid"⟩] ∧
      ¬ (d'.rows = d.rows ∨
        ∃ items ∈ psasOf squidAndNoIdLiteral squidAndNoId,
          List.Forall₂ CarriesId items d'.rows) := by
  intro d d'
  have hrows : d'.rows = [⟨"Type: Application Layer Filter", "squid"⟩] := by decide +kernel
  have hold : d.rows = [⟨"Type: Packet Filter", "iptables"⟩] := rfl
  refine ⟨hrows, ?_⟩
  rw [hrows, hold]
  rintro (heq | ⟨items, hitems, hall⟩)
  · revert heq
    decide +kernel
  · obtain rfl := Option.some.inj hitems
    cases hall.length_eq

end SecuredApp
