import CollectionMarker.FileSystem.Directories
import CollectionMarker.FileSystem.Mode
import CollectionMarker.FileSystem.Listing
import CollectionMarker.Marker.Opening
import CollectionMarker.Collection.DocumentArray
import CollectionMarker.Proofs.Marker.Atomicity
import CollectionMarker.Proofs.Marker.Crash
import CollectionMarker.Proofs.Marker.Session
import CollectionMarker.Proofs.Marker.Immutability
import CollectionMarker.Proofs.Marker.Stability
import CollectionMarker.Proofs.Marker.Resumption
import CollectionMarker.Proofs.Marker.Commuting
import CollectionMarker.Proofs.Marker.AuditTrail
import CollectionMarker.Proofs.Marker.FirstUse
import CollectionMarker.Proofs.Marker.Creation
import CollectionMarker.Proofs.Marker.Spelling
import CollectionMarker.Proofs.Marker.Meaning
import CollectionMarker.Proofs.Document.Acceptance
import CollectionMarker.Proofs.Document.Array
import CollectionMarker.Proofs.Document.Naming
import CollectionMarker.Proofs.Marker.Siblings
import CollectionMarker.Proofs.Document.Keys
import CollectionMarker.Proofs.Document.Optional
import CollectionMarker.Proofs.Marker.Syncing
import CollectionMarker.Proofs.Marker.LogLine
