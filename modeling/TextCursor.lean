import TextCursor.Value.Keyed
import TextCursor.Proofs.Cursor.Alternation
import TextCursor.Proofs.Cursor.Chain
import TextCursor.Proofs.Cursor.Complement
import TextCursor.Proofs.Cursor.Description
import TextCursor.Proofs.Cursor.EarliestMatch
import TextCursor.Proofs.Cursor.Entry
import TextCursor.Proofs.Cursor.Explanation
import TextCursor.Proofs.Cursor.Inspection
import TextCursor.Proofs.Cursor.Lookup
import TextCursor.Proofs.Cursor.Omission
import TextCursor.Proofs.Cursor.Partition
import TextCursor.Proofs.Cursor.ReversedRange
import TextCursor.Proofs.Cursor.UnifiedLocation
import TextCursor.Proofs.Diagnostic.Distinction
import TextCursor.Proofs.Diagnostic.Excerpt
import TextCursor.Proofs.Diagnostic.Identity
import TextCursor.Proofs.Diagnostic.Json
import TextCursor.Proofs.Diagnostic.Separation
import TextCursor.Proofs.Location.Agreement
import TextCursor.Proofs.Location.Bisection
import TextCursor.Proofs.Location.Coordinates
import TextCursor.Proofs.Text.JoinedBreak
