import StyleTags.Main
import StyleTags.Proofs.Piece.Division
import StyleTags.Proofs.Piece.Characters
import StyleTags.Proofs.Piece.Overlap
import StyleTags.Proofs.Piece.Append
import StyleTags.Proofs.Paint.Grammar
import StyleTags.Proofs.Paint.Spellings
import StyleTags.Proofs.Renderer.History
import StyleTags.Proofs.Codebook.Ledger
import StyleTags.Proofs.Renderer.Contents
import StyleTags.Proofs.Escape
import StyleTags.Proofs.Renderer.Signals
import StyleTags.Proofs.Renderer.Document
import StyleTags.Proofs.Printer.Stream
import StyleTags.Proofs.Printer.Append
import StyleTags.Proofs.Host
import StyleTags.Proofs.Renderer.Events
import StyleTags.Proofs.Printer.Settings
import StyleTags.Proofs.Paint.Refusals
import StyleTags.Proofs.Journal.Records
import StyleTags.Proofs.Renderer.Stripped
import StyleTags.Proofs.Mode
import StyleTags.Proofs.Settings.Environment
import StyleTags.Proofs.Search.Slices
