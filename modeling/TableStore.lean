import TableStore.Main
import TableStore.Proofs.Statement.Acceptance
import TableStore.Proofs.Database.Literal
import TableStore.Proofs.Token.Reserved
import TableStore.Proofs.Database.Addressable
import TableStore.Proofs.Token.Value
import TableStore.Proofs.Database.Classification
import TableStore.Proofs.Database.Growth
import TableStore.Proofs.Table.Writing
import TableStore.Proofs.Database.Script
import TableStore.Proofs.Database.Independence
import TableStore.Proofs.Token.Layout
import TableStore.Proofs.Database.Display
import TableStore.Proofs.Console.Verbosity
import TableStore.Proofs.Statement.Precision
import TableStore.Proofs.Database.Partition
import TableStore.Proofs.Database.Faultless
import TableStore.Proofs.Statement.Lookahead
import TableStore.Proofs.Statement.Viability
import TableStore.Proofs.Token.Spans
import TableStore.Proofs.Token.Canonical
import TableStore.Proofs.Table.Checks
import TableStore.Proofs.Database.Checks
import TableStore.Proofs.Token.Number
import TableStore.Proofs.Database.Numbers
import TableStore.Proofs.Database.Rendering
import TableStore.Proofs.Table.IntegerLiteral
import TableStore.Proofs.Database.Spellings
