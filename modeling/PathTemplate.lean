import PathTemplate.Grammar
import PathTemplate.Main
import PathTemplate.Params.Session
import PathTemplate.Proofs.Canonical
import PathTemplate.Proofs.FloatText
import PathTemplate.Proofs.JoinedBuild
import PathTemplate.Proofs.Pieces
import PathTemplate.Value.Supplied
import PathTemplate.Proofs.Entries
import PathTemplate.Proofs.Sessions
import PathTemplate.Proofs.Alike
import PathTemplate.Proofs.Arguments
import PathTemplate.Proofs.Renaming
import PathTemplate.Proofs.CommandLine
import PathTemplate.Proofs.Writes
import PathTemplate.Proofs.Equality
import PathTemplate.Proofs.Names
import PathTemplate.Proofs.Repairs
import PathTemplate.Proofs.Endings
import PathTemplate.Proofs.LongestRuns
import PathTemplate.Proofs.Events
import PathTemplate.Proofs.FlagPlaces
import PathTemplate.Proofs.Logging
import PathTemplate.Proofs.PartialEquality
import PathTemplate.Proofs.Integers
import PathTemplate.Proofs.Extended
import PathTemplate.Proofs.ValueTexts
import PathTemplate.Proofs.Widening
import PathTemplate.Proofs.RepeatedKeys
import PathTemplate.Proofs.Separators
import PathTemplate.Proofs.Messages
import PathTemplate.Proofs.BindingTexts
import PathTemplate.Proofs.KeyOrder
import PathTemplate.Proofs.EventLines
import PathTemplate.Proofs.LineEnds
