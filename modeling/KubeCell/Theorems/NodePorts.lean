import KubeCell.Inventory
import KubeCell.Lemmas.Evaluator

/-!
# Node ports

What is projected of the services of a host, and what the check of node ports makes of it.
-/

namespace KubeCell

open EvaluatorAux

/-- Some port of some service has the node port. -/
def NodePortUsed (services : List Service) (nodePort : Int) : Prop :=
  ∃ service ∈ services, ∃ port ∈ service.ports, port.nodePort = nodePort

/-- The Cell after its node ports were projected from services. -/
def Cell.withNodePorts (cell : Cell) (rt : Runtime) (services : List Service) : Cell :=
  { cell with status.nodePorts := projectNodePorts rt services }

namespace NodePortsAux

/-- A port is projected when it is assigned to some service; zero says that none is. -/
theorem mem_projectNodePorts (rt : Runtime) (services : List Service) (nodePort : Int) :
    nodePort ∈ (projectNodePorts rt services).allocated ↔ 0 < nodePort ∧ NodePortUsed services nodePort := by
  simp only [projectNodePorts, List.mem_insertionSort, List.mem_filterMap, List.mem_flatMap,
    Option.ite_none_right_eq_some,
    Option.some.injEq]
  constructor
  · rintro ⟨port, ⟨service, hservice, hport⟩, hpositive, rfl⟩
    exact ⟨hpositive, service, hservice, port, hport, rfl⟩
  · rintro ⟨hpositive, service, hservice, port, hport, rfl⟩
    exact ⟨port, ⟨service, hservice, hport⟩, hpositive, rfl⟩

/-- The ports of the range are positive, so one of them is projected when a service has it. -/
theorem mem_projectNodePorts_of_range {rt : Runtime} {services : List Service} {nodePort : Int}
    (hmin : Platform.nodePortMin ≤ nodePort) :
    nodePort ∈ (projectNodePorts rt services).allocated ↔ NodePortUsed services nodePort := by
  have hpositive : 0 < nodePort := lt_of_lt_of_le (by decide) hmin
  rw [mem_projectNodePorts, and_iff_right hpositive]

end NodePortsAux

open NodePortsAux

/-- On what is projected of any services, the check fails exactly when every port of the range is used, and passes
exactly when one is used by none. -/
theorem node_port_exhaustion_iff (rt rt' : Runtime) (cell : Cell) (services : List Service) :
    ((nodePortCheck rt (cell.withNodePorts rt' services)).status = .failed ↔
      ∀ nodePort, Platform.nodePortMin ≤ nodePort → nodePort ≤ Platform.nodePortMax → NodePortUsed services nodePort) ∧
    ((nodePortCheck rt (cell.withNodePorts rt' services)).status = .passed ↔
      ∃ nodePort, Platform.nodePortMin ≤ nodePort ∧ nodePort ≤ Platform.nodePortMax ∧
        ¬NodePortUsed services nodePort) := by
  have hfresh : (cell.withNodePorts rt' services).status.nodePorts.fresh = true := rfl
  have hallocated : ∀ nodePort, Platform.nodePortMin ≤ nodePort →
      (nodePort ∈ (cell.withNodePorts rt' services).status.nodePorts.allocated ↔ NodePortUsed services nodePort) :=
    fun nodePort hmin => mem_projectNodePorts_of_range hmin
  constructor
  · rw [nodePortCheck_failed_iff, and_iff_right hfresh]
    exact forall_congr' fun nodePort => forall_congr' fun hmin => by rw [hallocated nodePort hmin]
  · rw [nodePortCheck_passed_iff, and_iff_right hfresh]
    exact exists_congr fun nodePort => and_congr_right fun hmin => by rw [hallocated nodePort hmin]

end KubeCell
