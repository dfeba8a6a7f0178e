import SlideDeck.Main
import SlideDeck.Proofs.Reader.Imports
import SlideDeck.Proofs.Reader.Chunks
import SlideDeck.Proofs.Reader.Append
import SlideDeck.Proofs.Reader.Consistency
import SlideDeck.Proofs.Printer.RoundTrip
import SlideDeck.Proofs.Printer.Rewritten
import SlideDeck.Proofs.Document.RoundTrip
import SlideDeck.Proofs.Reader.Growth
import SlideDeck.Proofs.Reader.Located
import SlideDeck.Proofs.Reader.Splice
import SlideDeck.Proofs.Reader.Nesting
import SlideDeck.Proofs.Reader.Causes
import SlideDeck.Proofs.Reader.Escapes
import SlideDeck.Proofs.Command.Endings
import SlideDeck.Proofs.Drawing.Shapes
import SlideDeck.Proofs.Token.Words
import SlideDeck.Proofs.Reader.Dispatch
import SlideDeck.Proofs.Document.FromDeck
import SlideDeck.Proofs.Drawing.Defaults
import SlideDeck.Proofs.Drawing.Places
import SlideDeck.Proofs.Reader.Figures
import SlideDeck.Proofs.Reader.FromFile
import SlideDeck.Proofs.Reader.DefaultsBlock
import SlideDeck.Proofs.Document.Described
import SlideDeck.Proofs.Document.Places
import SlideDeck.Proofs.Drawing.Placeholders
import SlideDeck.Proofs.Reader.Idle
import SlideDeck.Proofs.Printer.SlideBySlide
import SlideDeck.Proofs.Reader.ColorNotations
import SlideDeck.Proofs.Reader.EscapedLines
import SlideDeck.Proofs.Token.LineEnds
