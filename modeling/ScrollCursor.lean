import ScrollCursor.Connection
import ScrollCursor.Document.Parser
import ScrollCursor.MemoryServer
import ScrollCursor.Proofs.Buffer.BookmarkHistory
import ScrollCursor.Proofs.Buffer.Positions
import ScrollCursor.Proofs.Cursor.Course
import ScrollCursor.Proofs.Cursor.FailedFetch
import ScrollCursor.Proofs.Cursor.ForwardWalks
import ScrollCursor.Proofs.Cursor.LiveRows
import ScrollCursor.Proofs.Cursor.OnDemand
import ScrollCursor.Proofs.Cursor.RetriedFetches
import ScrollCursor.Proofs.Cursor.StaticFetch
import ScrollCursor.Proofs.Key.Priority
import ScrollCursor.Proofs.Number.Normalization
import ScrollCursor.Proofs.Positioned.AddedBookmarks
import ScrollCursor.Proofs.Positioned.BookmarkLifetime
import ScrollCursor.Proofs.Positioned.FetchedBack
import ScrollCursor.Proofs.Positioned.OtherRows
import ScrollCursor.Proofs.Positioned.SeveralTables
import ScrollCursor.Proofs.Positioned.SharedColumns
import ScrollCursor.Proofs.Positioned.ShownPosition
import ScrollCursor.Proofs.Sql.EnclosedText
import ScrollCursor.Proofs.Sql.LosslessLiterals
import ScrollCursor.Proofs.Sql.PositionedRewriting
import ScrollCursor.Proofs.Sql.WellScanned
import ScrollCursor.Proofs.Statement.Lifetimes
import ScrollCursor.Proofs.Statement.NameHistory
import ScrollCursor.Proofs.Statement.OpenCursors
import ScrollCursor.Proofs.Statement.OpenRowsets
import ScrollCursor.Proofs.Statement.Refusals
import ScrollCursor.Proofs.Statement.WholeRowset
import ScrollCursor.Proofs.Text.OptionTexts
import ScrollCursor.Proofs.WriteBack.BindModes
import ScrollCursor.Proofs.WriteBack.Statements
import ScrollCursor.Statement.Summary
