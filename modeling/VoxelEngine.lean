import VoxelEngine.ClientServer.CompoundMessage
import VoxelEngine.ClientServer.ConnectionTable
import VoxelEngine.ClientServer.DeliveryOrder
import VoxelEngine.ClientServer.Handshake
import VoxelEngine.ClientServer.IdentifierRecycling
import VoxelEngine.ClientServer.PartialSync
import VoxelEngine.ClientServer.RemoteConnection
import VoxelEngine.ClientServer.RemoteInput
import VoxelEngine.ClientServer.RemovalSync
import VoxelEngine.ClientServer.SessionIds
import VoxelEngine.ClientServer.SocketClient
import VoxelEngine.ClientServer.TypeAgreement
import VoxelEngine.ClientServer.WriteLoss
import VoxelEngine.Core.Engine
import VoxelEngine.Core.FieldComparable
import VoxelEngine.Ecs.RaiiComponent
import VoxelEngine.Ecs.RemoteInitializer
import VoxelEngine.Ecs.RuleSet
import VoxelEngine.Ecs.StaticEntity
import VoxelEngine.Ecs.SystemOrder
import VoxelEngine.Event.DelayedDispatcher
import VoxelEngine.Event.OneTimeHandlers
import VoxelEngine.Graphics.BindingNumbers
import VoxelEngine.Graphics.CombineLaw
import VoxelEngine.Graphics.DirectiveActions
import VoxelEngine.Graphics.GpuBuffer
import VoxelEngine.Graphics.LayoutBytes
import VoxelEngine.Graphics.PreprocessorOrder
import VoxelEngine.Graphics.SettingsHash
import VoxelEngine.Graphics.TextureCache
import VoxelEngine.Graphics.UniformResolution
import VoxelEngine.Input.BindingDispatch
import VoxelEngine.Input.DragBrackets
import VoxelEngine.Input.KeyPresses
import VoxelEngine.Plugin.Retry
import VoxelEngine.Plugin.UnloadAll
import VoxelEngine.Serialize.Decompress
import VoxelEngine.Serialize.MultiContainers
import VoxelEngine.Serialize.TransferLength
import VoxelEngine.Thread.MainThread
import VoxelEngine.Utility.Bimap
import VoxelEngine.Utility.EscapeChars
import VoxelEngine.Utility.FileIo
import VoxelEngine.Utility.LineLength
import VoxelEngine.Utility.PolymorphOwnership
import VoxelEngine.Utility.SpatialIndex
import VoxelEngine.Utility.Substrings
import VoxelEngine.Utility.Xorshift
import VoxelEngine.Voxel.CacheTransparency
import VoxelEngine.Voxel.EntityChunks
import VoxelEngine.Voxel.LoadCounts
import VoxelEngine.Voxel.LockExclusivity
import VoxelEngine.Voxel.MachineSpace
import VoxelEngine.Voxel.MeshFreshness
import VoxelEngine.Voxel.MessageSize
import VoxelEngine.Voxel.RemoteCommands
import VoxelEngine.Voxel.Replication
import VoxelEngine.Voxel.TileProvider
import VoxelEngine.Voxel.TileSlots
import VoxelEngine.Voxel.WorldLayers
