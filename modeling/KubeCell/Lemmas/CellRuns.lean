import KubeCell.Lemmas.CellWalk
import KubeCell.Lemmas.Effects
import KubeCell.System

/-!
# What the status of a Cell keeps over the rounds

The status of a Cell is written by its rounds only. So what an empty status has, and every exit of a round keeps,
holds of the Cell in every state that rounds can reach, and of every Cell that the running round has seen.
-/

namespace KubeCell

open CellWalkAux EffectsAux Prog RoundAux

/-- An empty status has the property, and a round that starts with it ends with it. -/
structure KeptByExits (Γ : Ctx) (clock : Runtime → Prop) (Φ : CellStatus → Prop) : Prop where
  empty : Φ {}
  exit : ∀ {rt : Runtime} {cell : Cell} {h : List Event} {status : CellStatus}, clock rt → Φ cell.status →
    CellExit Γ rt cell h status →
    Φ status
  blocked : ∀ {rt : Runtime} {cell : Cell}, clock rt → Φ cell.status → Φ (cell.blocked rt).status

/-- The Cell under the name has a status with the property. -/
def StoredStatus (Φ : CellStatus → Prop) (key : NamespacedName) (w : World) : Prop :=
  ∀ cell, w.cells.find key = some cell → Φ cell.status

/-- The Cells that a round has seen: those it has read are under its name, and they all have a
status with the property. -/
structure SeenStatus (Φ : CellStatus → Prop) (key : NamespacedName) (h : List Event) : Prop where
  read : ∀ cell, Saw h (.api (.getCell key)) (.ok cell) → cell.key = key ∧ Φ cell.status
  updated : ∀ o cell, Saw h (.api (.updateCell o)) (.ok cell) → Φ cell.status

namespace CellRunsAux

variable {Γ : Ctx} {rt : Runtime} {key : NamespacedName} {h : List Event} {w w' : World} {Φ : CellStatus → Prop}
  {clock : Runtime → Prop} {cell o : Cell}

theorem SeenStatus.opened (hseen : SeenStatus Φ key h) (hopened : Opened key h cell) : Φ cell.status := by
  cases hopened with
  | read => exact (hseen.read cell List.mem_cons_self).2
  | adopted => exact hseen.updated _ cell (List.mem_cons_of_mem _ List.mem_cons_self)

theorem SeenStatus.closing (hseen : SeenStatus Φ key h) (hclosing : Closing key h cell) :
    cell.key = key ∧ Φ cell.status := by
  cases hclosing with
  | read => exact hseen.read cell List.mem_cons_self

/-- An earlier part of a history has seen less. -/
theorem SeenStatus.of_append {tail : List Event} (hseen : SeenStatus Φ key (h ++ tail)) : SeenStatus Φ key h where
  read cell hsaw := hseen.read cell (List.mem_append_left _ hsaw)
  updated o cell hsaw := hseen.updated o cell (List.mem_append_left _ hsaw)

/-- A status that a round writes has the property. -/
theorem status_of_persist (hkept : KeptByExits Γ clock Φ) (hclock : clock rt) (hseen : SeenStatus Φ key h)
    (hp : CellPermitted Γ rt key h (.api (.updateCellStatus o))) : Φ o.status := by
  cases hp with
  | read hread => nomatch hread
  | @persist h₀ tail cell current _ heq _ _ hexit =>
    subst heq
    rcases hexit with ⟨hopened, hexit⟩ | ⟨hclosing, -, hstatus⟩
    · exact hkept.exit hclock (SeenStatus.opened (SeenStatus.of_append hseen) hopened) hexit
    · rw [hstatus]
      exact hkept.blocked hclock (SeenStatus.closing (SeenStatus.of_append hseen) hclosing).2

/-- An update that a round makes is of the Cell under its name. -/
theorem key_of_updateCell (hseen : SeenStatus Φ key h)
    (hp : CellPermitted Γ rt key h (.api (.updateCell o))) : o.key = key := by
  cases hp with
  | read hread => nomatch hread
  | @adopt cell heq =>
    subst heq
    exact (hseen.read cell List.mem_cons_self).1
  | release hclosing => exact (SeenStatus.closing hseen hclosing).1

/-- A call of a round keeps the property of the stored status. -/
theorem storedStatus_serve (hkept : KeptByExits Γ clock Φ) (hclock : clock rt) (hseen : SeenStatus Φ key h)
    (hstored : StoredStatus Φ key w) {call : ApiCall} (hp : CellPermitted Γ rt key h (.api call)) :
    StoredStatus Φ key (w.serve call).2 := by
  have hupdate : ∀ o : Cell, o.key = key →
    StoredStatus Φ key { w.next with cells := (w.cells.update w.version o).2 } := by
    intro o hkey
    obtain ⟨e, hfailed⟩ | ⟨current, hcurrent, -, hput | ⟨-, hgone⟩⟩ := Store.update_cases w.cells w.version o
    · rw [hfailed]
      exact hstored
    · intro cell hfind
      rw [hput, Store.find_put] at hfind
      split_ifs at hfind
      · cases hfind
        exact hstored current (hkey ▸ hcurrent)
      · exact hstored cell hfind
    · intro cell hfind
      rw [hgone, Store.find_remove] at hfind
      split_ifs at hfind
      exact hstored cell hfind
  have hstatus : ∀ o : Cell, Φ o.status →
    StoredStatus Φ key { w.next with cells := (w.cells.updateStatus w.version o).2 } := by
    intro o hstatus
    obtain ⟨e, hfailed⟩ | ⟨current, -, hput⟩ := Store.updateStatus_cases w.cells w.version o
    · rw [hfailed]
      exact hstored
    · intro cell hfind
      rw [hput, Store.find_put] at hfind
      split_ifs at hfind
      · cases hfind
        exact hstatus
      · exact hstored cell hfind
  cases call with
  | updateCell o => exact hupdate o (key_of_updateCell hseen hp)
  | updateCellStatus o => exact hstatus o (status_of_persist hkept hclock hseen hp)
  | _ => exact hstored

/-- A call of a round that is answered keeps the property of the Cells the round has seen. -/
theorem SeenStatus.step (hseen : SeenStatus Φ key h) (hstored : StoredStatus Φ key w) {call : Call} {r : call.Res}
    (hp : CellPermitted Γ rt key h call) (hx : World.Exec w call r w') : SeenStatus Φ key (h ++ [event call r]) := by
  constructor
  · intro cell hsaw
    rcases saw_snoc hsaw with hold | hnew
    · exact hseen.read cell hold
    · cases hnew
      have hfind := Store.get_ok_iff.mp (served_of_ok hx).1
      exact ⟨Store.find_keyed hfind, hstored cell hfind⟩
  · intro o cell hsaw
    rcases saw_snoc hsaw with hold | hnew
    · exact hseen.updated o cell hold
    · cases hnew
      have hok := (served_of_ok hx).1
      have hkey : o.key = key := key_of_updateCell hseen hp
      obtain ⟨e, hfailed⟩ | ⟨current, hcurrent, hupdated, -⟩ := Store.update_cases w.cells w.version o
      · have hserve : (w.serve (.updateCell o)).1 = .error e := congrArg Prod.fst hfailed
        rw [hserve] at hok
        nomatch hok
      · have hcell := hupdated.symm.trans hok
        cases hcell
        exact hstored current (hkey ▸ hcurrent)

/-- In every state that rounds can reach, the stored status and those the running round has seen have the property,
and the round is permitted what it does. -/
theorem holds_of_reachable {cfg : CellConfig} {env : World → World → Prop} (hkept : KeptByExits Γ clock Φ)
    (henv : ∀ w w', env w w' → CellStatusKept key w w') {s : Sys World Event Call Call.Res (Except Err Result)}
    (hs : Sys.Reachable (clockedCellSystem Γ cfg key env clock) (StoredStatus Φ key) s) :
    Sys.Holds (clockedCellSystem Γ cfg key env clock) (StoredStatus Φ key) (fun _ h => SeenStatus Φ key h)
      (fun h call => ∃ rt, clock rt ∧ CellPermitted Γ rt key h call) s := by
  refine Sys.invariant (fun w hw => hw) ?_ ?_ ?_ ?_ hs
  · exact fun w _ => ⟨fun cell hsaw => (List.not_mem_nil hsaw).elim, fun o cell hsaw => (List.not_mem_nil hsaw).elim⟩
  · rintro p ⟨rt, hclock, rfl⟩
    exact (cellSafe_reconcile Γ cfg rt key).mono (fun h call hp => ⟨rt, hclock, hp⟩) fun h a hq => hq
  · intro w w' hstep hstored
    refine ⟨fun cell' hfind => ?_, fun h hseen => hseen⟩
    rcases henv w w' hstep cell' hfind with hnew | ⟨cell, hcell, hstatus⟩
    · rw [hnew]
      exact hkept.empty
    · rw [hstatus]
      exact hstored cell hcell
  · rintro w call r w' h hstored hseen ⟨rt, hclock, hp⟩ hx
    refine ⟨?_, SeenStatus.step hseen hstored hp hx⟩
    cases hx with
    | served call => exact storedStatus_serve hkept hclock hseen hstored hp
    | unavailable => exact hstored
    | lost call => exact storedStatus_serve hkept hclock hseen hstored hp
    | host => exact hstored

end CellRunsAux
end KubeCell
