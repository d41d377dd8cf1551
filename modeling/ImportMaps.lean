import ImportMaps.Declaration.Lemmas
import ImportMaps.Main
import ImportMaps.Session
import ImportMaps.Proofs.CommandLine.AllOrNothing
import ImportMaps.Proofs.CommandLine.Input
import ImportMaps.Proofs.CommandLine.Log
import ImportMaps.Proofs.Config.Json
import ImportMaps.Proofs.Map.ScriptTag
import ImportMaps.Proofs.Resolver.Collision
import ImportMaps.Proofs.Resolver.Distinction
import ImportMaps.Proofs.Resolver.Merge
import ImportMaps.Proofs.Session.Coherence
import ImportMaps.Proofs.Source.Document
import ImportMaps.Proofs.Source.Extension
import ImportMaps.Proofs.Source.LineFeed
import ImportMaps.Proofs.Source.Progress
import ImportMaps.Proofs.Source.Quotes
import ImportMaps.Proofs.Source.Restart
import ImportMaps.Proofs.Source.Unambiguous
