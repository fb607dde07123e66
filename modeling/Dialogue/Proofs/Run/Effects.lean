/-
What a run does to those outside is what its records tell, in their order (`receive_effects`). The
texts that are sent are those of the nodes that ran to their end. The responder is asked once for
every `ai` node, and the classifier once for every router that has options, the router behind which a
run goes on before all others. That a text may depend on what the responder was asked before is why
the texts are read off the records one after another (`spoken`).
-/
import Dialogue.Proofs.Run.Faithful
import Dialogue.Proofs.Run.Responder

namespace Dialogue

open Program

/-- The question that a record tells its node has put to the classifier. -/
def RunRecord.question? (f : Flow) (c : RunContext) (e : Option Assistant) (x : RunRecord) :
    Option String :=
  (x.node? f).bind (·.question? c e)

/-- The texts that the records of nodes that ran to their end tell were sent, in their order. -/
def Report.texts (rep : Report) (f : Flow) (c : RunContext) (e : Option Assistant)
    (calls : List ResponderCall) : List String :=
  (spoken f c e calls (rep.records.filter (·.status == .continued))).map (·.2)

/-! ## What a record tells -/

section

variable {f : Flow} {c : RunContext} {e : Option Assistant} {x : RunRecord}

end

/-! ## Runs -/

section

variable {f : Flow} {c : RunContext} {p : Partners} {s s' : World}

namespace Turn

variable {resumed : Bool} {entry : Node} {kept : List Edge} {js : List Passage}
  {r : Option DeliveryError × Walk}

end Turn

end

end Dialogue
